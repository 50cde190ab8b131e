import RepoAtlas.Outline.JavaScript
import RepoAtlas.Proofs.Path.Segments
import RepoAtlas.Proofs.Syntax.Ranges
import RepoAtlas.Proofs.Text.Trimming
import Mathlib.Data.List.Chain

/-!
# The names of a joined route

A route is a list of names, and its spelling may have more slashes than are needed to keep them
apart.  **Normalizing changes no name** (`names_normalize`): there is nothing between two slashes
that stand together, and nothing before or after a slash at an end.

Joining writes one normalized route behind another.  Their names then follow one another as long as
the second route begins with a slash.  All normalized routes do but one, the wildcard, which stands
alone.  So **a wildcard is written onto the last name of the controller** instead of after it, and
this is the only way in which names are not kept (`names_join_wildcard`, `names_join`).
-/

namespace RepoAtlas

open List

namespace Text

/-- Nothing in the text is a blank. -/
def IsBlankFree (s : String) : Prop := ∀ c ∈ s.toList, isBlank c = false

instance : DecidablePred IsBlankFree :=
  fun s => List.decidableBAll (fun c => isBlank c = false) s.toList

end Text

namespace Route

open Text

/-- What stands between the slashes of a route, wherever that is something. -/
def names (route : String) : List String := (segments '/' route).filter (· != "")

/-- The same for a list of characters. -/
def namesOf (cs : List Char) : List (List Char) := (cs.splitOn '/').filter (!·.isEmpty)

variable {cs : List Char} {c : Char}

lemma names_eq (route : String) : names route = (namesOf route.toList).map String.ofList := by
  have hempty : ∀ cs : List Char, (String.ofList cs != "") = !cs.isEmpty := by
    intro cs
    cases cs with
    | nil => rfl
    | cons c rest => simp
  simp only [names, namesOf, segments, filter_map, Function.comp_def, hempty]

/-! ## Names and slashes -/

lemma namesOf_nil : namesOf [] = [] := rfl

lemma namesOf_append_slash (before after : List Char) :
    namesOf (before ++ '/' :: after) = namesOf before ++ namesOf after := by
  rw [namesOf, splitOn_append_cons_self, filter_append]
  rfl

lemma namesOf_slash_cons (after : List Char) : namesOf ('/' :: after) = namesOf after := by
  have hsplit := namesOf_append_slash [] after
  rwa [nil_append, namesOf_nil, nil_append] at hsplit

lemma namesOf_concat_slash (before : List Char) : namesOf (before ++ ['/']) = namesOf before := by
  rw [namesOf_append_slash, namesOf_nil, append_nil]

lemma namesOf_name (hname : '/' ∉ cs) (hsome : cs ≠ []) : namesOf cs = [cs] := by
  have hsplit : cs.splitOn '/' = [cs] := by
    refine splitOnP_eq_singleton ?_
    intro c hc
    rw [beq_eq_false_iff_ne]
    rintro rfl
    exact hname hc
  simp [namesOf, hsplit, hsome]

/-- What is written onto a text that does not end in a slash is written onto its last name. -/
lemma exists_namesOf_append (hsome : cs ≠ []) (hend : cs.getLast? ≠ some '/') :
    ∃ front last, namesOf cs = front ++ [last] ∧
      ∀ more, '/' ∉ more → namesOf (cs ++ more) = front ++ [last ++ more] := by
  by_cases hslash : '/' ∈ cs
  · obtain ⟨back, before, hcut, hback⟩ := eq_append_cons_of_mem (mem_reverse.2 hslash)
    have hcs : cs = before.reverse ++ '/' :: back.reverse := by
      rw [← reverse_inj, hcut]
      simp
    have hlast : back.reverse ≠ [] := by
      intro hnil
      rw [hcs, hnil] at hend
      simp at hend
    have hname : '/' ∉ back.reverse := fun hmem => hback (mem_reverse.1 hmem)
    refine ⟨namesOf before.reverse, back.reverse, ?_, ?_⟩
    · rw [hcs, namesOf_append_slash, namesOf_name hname hlast]
    · intro more hmore
      have hlonger : '/' ∉ back.reverse ++ more := by
        rw [mem_append, not_or]
        exact ⟨hname, hmore⟩
      rw [hcs, append_assoc, cons_append, namesOf_append_slash,
        namesOf_name hlonger (append_ne_nil_of_left_ne_nil hlast more)]
  · refine ⟨[], cs, namesOf_name hslash hsome, ?_⟩
    intro more hmore
    have hlonger : '/' ∉ cs ++ more := by
      rw [mem_append, not_or]
      exact ⟨hslash, hmore⟩
    exact namesOf_name hlonger (append_ne_nil_of_left_ne_nil hsome more)

/-! ## Normalizing -/

/-- What stands in front is arbitrary, so that the induction can move past a character. -/
lemma namesOf_append_squeezeSlashes (before cs : List Char) :
    namesOf (before ++ squeezeSlashes cs) = namesOf (before ++ cs) := by
  induction cs using squeezeSlashes.induct generalizing before with
  | case1 rest ih =>
      rw [squeezeSlashes, ih, namesOf_append_slash, namesOf_append_slash, namesOf_slash_cons]
  | case2 c rest hsingle ih =>
      have hmoved := ih (before ++ [c])
      rw [squeezeSlashes]
      · simpa using hmoved
      · exact hsingle
  | case3 => rfl

lemma namesOf_squeezeSlashes (cs : List Char) : namesOf (squeezeSlashes cs) = namesOf cs :=
  namesOf_append_squeezeSlashes [] cs

lemma namesOf_dropFinalSlash (cs : List Char) : namesOf (dropFinalSlash cs) = namesOf cs := by
  unfold dropFinalSlash
  split_ifs with hslash
  · obtain ⟨front, hfront⟩ := getLast?_eq_some_iff.1 hslash.2
    rw [hfront, dropLast_concat, namesOf_concat_slash]
  · rfl

/-- **Normalizing changes no name.** -/
lemma namesOf_normalizeTrimmed (cs : List Char) : namesOf (normalizeTrimmed cs) = namesOf cs := by
  unfold normalizeTrimmed
  split_ifs with hnil hrooted
  · subst hnil
    rfl
  · rw [namesOf_dropFinalSlash, namesOf_squeezeSlashes]
  · rw [namesOf_dropFinalSlash, namesOf_squeezeSlashes, namesOf_slash_cons]

/-- **Normalizing changes no name**, if there are no blanks to trim. -/
lemma names_normalize {route : String} (h : IsBlankFree route) :
    names (normalize route) = names route := by
  rw [names_eq, names_eq, normalize, String.toList_ofList, trimOf_eq_self h,
    namesOf_normalizeTrimmed]

lemma mem_squeezeSlashes (h : c ∈ squeezeSlashes cs) : c ∈ cs := by
  induction cs using squeezeSlashes.induct with
  | case1 rest ih =>
      rw [squeezeSlashes] at h
      exact mem_cons_of_mem _ (ih h)
  | case2 d rest hsingle ih =>
      rw [squeezeSlashes] at h
      · rcases mem_cons.1 h with rfl | h
        · exact mem_cons_self
        · exact mem_cons_of_mem _ (ih h)
      · exact hsingle
  | case3 => exact absurd h not_mem_nil

/-- Only slashes are added. -/
lemma mem_normalizeTrimmed (h : c ∈ normalizeTrimmed cs) : c ∈ cs ∨ c = '/' := by
  have hdrop : ∀ ds : List Char, c ∈ dropFinalSlash ds → c ∈ ds := by
    intro ds hc
    unfold dropFinalSlash at hc
    split_ifs at hc
    · exact mem_of_mem_dropLast hc
    · exact hc
  unfold normalizeTrimmed at h
  split_ifs at h with hnil hrooted
  · exact Or.inr (mem_singleton.1 h)
  · exact Or.inl (mem_squeezeSlashes (hdrop _ h))
  · exact (mem_cons.1 (mem_squeezeSlashes (hdrop _ h))).symm

lemma isBlankFree_normalize {route : String} (h : IsBlankFree route) :
    IsBlankFree (normalize route) := by
  intro c hc
  rw [normalize, String.toList_ofList, trimOf_eq_self h] at hc
  rcases mem_normalizeTrimmed hc with hc | rfl
  · exact h c hc
  · rfl

/-! ### How a normalized route begins and ends -/

lemma head?_squeezeSlashes (cs : List Char) : (squeezeSlashes cs).head? = cs.head? := by
  induction cs using squeezeSlashes.induct with
  | case1 rest ih =>
      rw [squeezeSlashes, ih]
      rfl
  | case2 c rest hsingle ih =>
      rw [squeezeSlashes]
      · rfl
      · exact hsingle
  | case3 => rfl

/-- No two slashes stand together. -/
lemma isChain_squeezeSlashes (cs : List Char) :
    (squeezeSlashes cs).IsChain fun a b => ¬ (a = '/' ∧ b = '/') := by
  induction cs using squeezeSlashes.induct with
  | case1 rest ih =>
      rw [squeezeSlashes]
      exact ih
  | case2 c rest hsingle ih =>
      rw [squeezeSlashes]
      · refine isChain_cons.2 ⟨?_, ih⟩
        rintro d hd ⟨rfl, rfl⟩
        rw [head?_squeezeSlashes] at hd
        obtain ⟨more, rfl⟩ := head?_eq_some_iff.1 hd
        exact hsingle more rfl rfl
      · exact hsingle
  | case3 => exact isChain_nil

/-- A slash at the end is all there is. -/
lemma dropFinalSlash_squeezeSlashes (cs : List Char) :
    dropFinalSlash (squeezeSlashes cs) = ['/'] ∨
      (dropFinalSlash (squeezeSlashes cs)).getLast? ≠ some '/' := by
  have hchain := isChain_squeezeSlashes cs
  unfold dropFinalSlash
  split_ifs with hslash
  · right
    obtain ⟨hlong, hlast⟩ := hslash
    obtain ⟨front, hfront⟩ := getLast?_eq_some_iff.1 hlast
    rw [hfront] at hchain ⊢
    rw [dropLast_concat]
    intro hagain
    obtain ⟨earlier, rfl⟩ := getLast?_eq_some_iff.1 hagain
    rw [append_assoc] at hchain
    have hpair := hchain.right_of_append
    simp at hpair
  · by_cases hlast : (squeezeSlashes cs).getLast? = some '/'
    · left
      obtain ⟨front, hfront⟩ := getLast?_eq_some_iff.1 hlast
      have hshort : (squeezeSlashes cs).length ≤ 1 := by
        by_contra hlong
        exact hslash ⟨by omega, hlast⟩
      rw [hfront] at hshort ⊢
      have hnil : front = [] := by
        rw [length_append, length_singleton] at hshort
        exact length_eq_zero_iff.1 (by omega)
      rw [hnil, nil_append]
    · exact Or.inr hlast

lemma normalizeTrimmed_ends (cs : List Char) :
    normalizeTrimmed cs = ['/'] ∨ (normalizeTrimmed cs).getLast? ≠ some '/' := by
  unfold normalizeTrimmed
  split_ifs
  · exact Or.inl rfl
  · exact dropFinalSlash_squeezeSlashes _
  · exact dropFinalSlash_squeezeSlashes _

/-- **Only the wildcard has no slash in front.** -/
lemma exists_normalizeTrimmed_eq (h : cs ≠ ['*']) : ∃ rest, normalizeTrimmed cs = '/' :: rest := by
  have hrooted : ∀ ds : List Char, ds.head? = some '/' →
      ∃ rest, dropFinalSlash (squeezeSlashes ds) = '/' :: rest := by
    intro ds hds
    rw [← head?_squeezeSlashes] at hds
    obtain ⟨rest, hrest⟩ := head?_eq_some_iff.1 hds
    unfold dropFinalSlash
    split_ifs with hslash
    · rw [hrest] at hslash ⊢
      have hsome : rest ≠ [] := by
        rintro rfl
        exact absurd hslash.1 (by simp)
      exact ⟨rest.dropLast, dropLast_cons_of_ne_nil hsome⟩
    · exact ⟨rest, hrest⟩
  unfold normalizeTrimmed
  split_ifs with hnil hslash
  · exact ⟨[], rfl⟩
  · exact hrooted cs (hslash.resolve_right h)
  · exact hrooted _ rfl

/-! ## Joining -/

variable {controller route own : String}

lemma toList_normalize (h : IsBlankFree route) :
    (normalize route).toList = normalizeTrimmed route.toList := by
  rw [normalize, String.toList_ofList, trimOf_eq_self h]

lemma names_eq_normalizeTrimmed (route : String) :
    names route = (namesOf (normalizeTrimmed route.toList)).map String.ofList := by
  rw [namesOf_normalizeTrimmed, names_eq]

/-- The names are those of the two normalized routes, one written behind the other, also where one
of them is left out. -/
lemma names_join (hcontroller : IsBlankFree controller) (hroute : IsBlankFree route) :
    names (join controller route) =
      (namesOf (normalizeTrimmed controller.toList ++ normalizeTrimmed route.toList)).map
        String.ofList := by
  unfold join
  split_ifs with hnone htop
  · subst hnone
    have hempty : normalizeTrimmed "".toList = ['/'] := rfl
    rw [names_normalize hroute, names_eq_normalizeTrimmed, hempty, singleton_append,
      namesOf_slash_cons]
  · have hslash : normalizeTrimmed route.toList = ['/'] := by
      rw [← toList_normalize hroute, htop]
      rfl
    rw [names_normalize hcontroller, names_eq_normalizeTrimmed, hslash, namesOf_concat_slash]
  · have hboth : IsBlankFree (normalize controller ++ normalize route) := by
      intro c hc
      rw [String.toList_append, mem_append] at hc
      rcases hc with hc | hc
      · exact isBlankFree_normalize hcontroller c hc
      · exact isBlankFree_normalize hroute c hc
    rw [names_normalize hboth, names_eq, String.toList_append, toList_normalize hcontroller,
      toList_normalize hroute]

/-- **A route that is not the wildcard keeps its names** behind those of the controller. -/
lemma names_join_of_ne (hcontroller : IsBlankFree controller) (hroute : IsBlankFree route)
    (hplain : route ≠ "*") : names (join controller route) = names controller ++ names route := by
  have hchars : route.toList ≠ ['*'] := by
    intro hstar
    exact hplain (String.toList_inj.1 hstar)
  obtain ⟨rest, hrest⟩ := exists_normalizeTrimmed_eq hchars
  rw [names_join hcontroller hroute, names_eq_normalizeTrimmed controller,
    names_eq_normalizeTrimmed route, hrest, namesOf_append_slash, namesOf_slash_cons, map_append]

/-- **The wildcard is written onto the last name of the controller**, if that has names. -/
lemma names_join_wildcard (hcontroller : IsBlankFree controller) :
    names controller = [] ∧ names (join controller "*") = ["*"] ∨
      ∃ front last, names controller = front ++ [last] ∧
        names (join controller "*") = front ++ [last ++ "*"] := by
  have hfree : IsBlankFree "*" := by decide +kernel
  have hstar : normalizeTrimmed "*".toList = ['*'] := by decide
  rw [names_join hcontroller hfree, names_eq_normalizeTrimmed controller, hstar]
  rcases normalizeTrimmed_ends controller.toList with htop | hend
  · left
    rw [htop]
    exact ⟨rfl, rfl⟩
  · right
    have hsome : normalizeTrimmed controller.toList ≠ [] := by
      by_cases hwild : controller.toList = ['*']
      · rw [hwild]
        decide
      · obtain ⟨rest, hrest⟩ := exists_normalizeTrimmed_eq hwild
        rw [hrest]
        exact cons_ne_nil _ _
    obtain ⟨front, last, hnames, hmore⟩ := exists_namesOf_append hsome hend
    refine ⟨front.map String.ofList, String.ofList last, ?_, ?_⟩
    · rw [hnames, map_append, map_singleton]
    · rw [hmore ['*'] (by decide), map_append, map_singleton, String.ofList_append]

/-- What joining does to names, in one formula. -/
lemma names_join_eq_iff (hcontroller : IsBlankFree controller) (hroute : IsBlankFree route) :
    names (join controller route) = names controller ++ names route ↔
      (route = "*" → names controller = []) := by
  by_cases hwild : route = "*"
  · subst hwild
    have hstar : names "*" = ["*"] := by decide +kernel
    rw [hstar]
    rcases names_join_wildcard hcontroller with ⟨hnone, hjoin⟩ | ⟨front, last, hnames, hjoin⟩
    · simp [hnone, hjoin]
    · simp [hnames, hjoin]
  · simp [names_join_of_ne hcontroller hroute hwild, hwild]

/-- The names of the controller come first under the same condition. -/
lemma prefix_names_join_iff (hcontroller : IsBlankFree controller) (hroute : IsBlankFree route) :
    names controller <+: names (join controller route) ↔
      (route = "*" → names controller = []) := by
  constructor
  · rintro hfront rfl
    rcases names_join_wildcard hcontroller with ⟨hnone, -⟩ | ⟨front, last, hnames, hjoin⟩
    · exact hnone
    · exfalso
      rw [hnames, hjoin, prefix_append_right_inj] at hfront
      have hlast : [last] = [last ++ "*"] := hfront.eq_of_length rfl
      have hlength := congrArg String.length (singleton_inj.1 hlast)
      rw [String.length_append] at hlength
      exact absurd hlength (by simp)
  · intro hplain
    rw [(names_join_eq_iff hcontroller hroute).2 hplain]
    exact prefix_append _ _

end Route

/-! ## Controller classes -/

namespace JavaScript

open Route Text

variable {source : Source} {registered : RouteOutline String Span}

/-- A decorator of a method of the class registers the route, as `own` below `controller`. -/
structure IsRegisteredBy (registered : RouteOutline String Span) (c : ClassOutline String Span)
    (controller own : String) : Prop where
  below : controllerRoute? c.decorators = some controller
  declared : ∃ method ∈ c.methods, ∃ decorator ∈ method.decorators,
    verbRoute? decorator = some (registered.method, own)
  joined : registered.route = join controller own

lemma exists_of_mem_controllerRoutes {controller? : Option String}
    {method : CallableOutline String Span} (h : registered ∈ controllerRoutes controller? method) :
    ∃ controller own, controller? = some controller ∧
      (∃ decorator ∈ method.decorators, verbRoute? decorator = some (registered.method, own)) ∧
      registered.route = join controller own := by
  cases controller? with
  | none => exact absurd h not_mem_nil
  | some controller =>
      obtain ⟨⟨verb, own⟩, hroute, rfl⟩ := mem_map.1 h
      obtain ⟨decorator, hdecorator, hverb⟩ := mem_filterMap.1 hroute
      exact ⟨controller, own, rfl, ⟨decorator, hdecorator, hverb⟩, rfl⟩

/-- The routes of a class body are those that the decorators of its methods register. -/
lemma exists_method_of_mem_routes {controller? : Option String} {pending : List String}
    {members : List SyntaxNode}
    (h : registered ∈ (membersOf source controller? pending members).routes) :
    ∃ method ∈ (membersOf source controller? pending members).methods,
      registered ∈ controllerRoutes controller? method := by
  induction members generalizing pending with
  | nil => exact absurd h not_mem_nil
  | cons member rest ih =>
      rw [membersOf] at h ⊢
      split_ifs at h ⊢ with hdecorator hmethod hfield
      · exact ih h
      · rcases mem_append.1 h with h | h
        · exact ⟨_, mem_append_left _ (mem_singleton_self _), h⟩
        · obtain ⟨method, hmem, hroute⟩ := ih h
          exact ⟨method, mem_append_right _ hmem, hroute⟩
      · rcases mem_append.1 h with h | h
        · exact absurd h not_mem_nil
        · obtain ⟨method, hmem, hroute⟩ := ih h
          exact ⟨method, mem_append_right _ hmem, hroute⟩
      · rcases mem_append.1 h with h | h
        · exact absurd h not_mem_nil
        · obtain ⟨method, hmem, hroute⟩ := ih h
          exact ⟨method, mem_append_right _ hmem, hroute⟩

lemma exists_isRegisteredBy {known : ClassContext} {node : SyntaxNode}
    (h : registered ∈ (classOf source known node).2) :
    ∃ controller own, IsRegisteredBy registered (classOf source known node).1 controller own := by
  obtain ⟨method, hmethod, hroute⟩ := exists_method_of_mem_routes h
  obtain ⟨controller, own, hcontroller, hdeclared, hjoined⟩ := exists_of_mem_controllerRoutes hroute
  exact ⟨controller, own, hcontroller, ⟨method, hmethod, hdeclared⟩, hjoined⟩

/-- **Only the wildcard is not put behind the names of its controller.**  It is written onto the
last of them, and so the routes of a controller class begin with the names of the controller unless
they are registered as the wildcard below a controller that has names. -/
theorem wildcards_join_the_last_name {controller route : String}
    (hcontroller : IsBlankFree controller) (hroute : IsBlankFree route) (source : Source)
    (known : ClassContext) (node : SyntaxNode) :
    (names (join controller route) = names controller ++ names route ↔
      (route = "*" → names controller = [])) ∧
    (∀ front last, names controller = front ++ [last] →
      names (join controller "*") = front ++ [last ++ "*"]) ∧
    ∀ registered ∈ (classOf source known node).2, ∃ above own,
      IsRegisteredBy registered (classOf source known node).1 above own ∧
        (IsBlankFree above → IsBlankFree own →
          (names above <+: names registered.route ↔ (own = "*" → names above = []))) := by
  refine ⟨names_join_eq_iff hcontroller hroute, ?_, ?_⟩
  · intro front last hnames
    rcases names_join_wildcard hcontroller with ⟨hnone, -⟩ | ⟨front', last', hnames', hjoin⟩
    · rw [hnone] at hnames
      simp at hnames
    · obtain ⟨rfl, hlast⟩ := append_inj' (hnames.symm.trans hnames') rfl
      rw [hjoin, singleton_inj.1 hlast]
  · intro registered hregistered
    obtain ⟨above, own, hby⟩ := exists_isRegisteredBy hregistered
    refine ⟨above, own, hby, ?_⟩
    intro habove hown
    rw [hby.joined]
    exact prefix_names_join_iff habove hown

/-- The class in
```
class A {
 @Get('/:id//*')
 find() {}
}
``` -/
def finder : SyntaxNode :=
  .construct "class_declaration" none 0 39
    [.construct "type_identifier" (some "name") 6 7 [],
      .construct "class_body" (some "body") 8 39
        [.construct "decorator" none 11 26 [],
          .construct "method_definition" none 28 37
            [.construct "property_identifier" (some "name") 28 32 []]]]

def finderSource : Source :=
  ⟨Text.encode "class A \x7b\n @Get('/:id//*')\n find() \x7b\x7d\n\x7d\n"⟩

def finderContext : ClassContext := ⟨"A", finder, false, ["Controller('users/')"]⟩

theorem finder_routes_begin_with_users :
    (IsBlankFree "users/" ∧ IsBlankFree "/:id//*" ∧ names "users/" = [] ++ ["users"]) ∧
    names (join "users/" "/:id//*") = names "users/" ++ names "/:id//*" ∧
    names (join "users/" "*") = [] ++ ["users" ++ "*"] ∧
    ∃ registered ∈ (classOf finderSource finderContext finder).2,
      IsRegisteredBy registered (classOf finderSource finderContext finder).1 "users/" "/:id//*" ∧
        names "users/" <+: names registered.route := by
  have husers : IsBlankFree "users/" := by decide +kernel
  have hid : IsBlankFree "/:id//*" := by decide +kernel
  have hnames : names "users/" = [] ++ ["users"] := by decide +kernel
  obtain ⟨hkept, hfused, hregistered⟩ :=
    wildcards_join_the_last_name husers hid finderSource finderContext finder
  refine ⟨⟨husers, hid, hnames⟩, hkept.2 (by decide), hfused _ _ hnames, ?_⟩
  obtain ⟨registered, hmem⟩ : ∃ registered, registered ∈
      (classOf finderSource finderContext finder).2 := by
    exact exists_mem_of_ne_nil _ (by decide +kernel)
  obtain ⟨controller, own, hby, hfront⟩ := hregistered registered hmem
  have hbelow : controllerRoute? (classOf finderSource finderContext finder).1.decorators =
      some "users/" := by decide +kernel
  obtain rfl : "users/" = controller := Option.some.inj (hbelow.symm.trans hby.below)
  have hdeclared : ∀ method ∈ (classOf finderSource finderContext finder).1.methods,
      ∀ decorator ∈ method.decorators, verbRoute? decorator = some ("GET", "/:id//*") := by
    decide +kernel
  obtain ⟨method, hmethod, decorator, hdecorator, hverb⟩ := hby.declared
  obtain ⟨-, rfl⟩ := Prod.mk.inj
    (Option.some.inj ((hdeclared method hmethod decorator hdecorator).symm.trans hverb))
  exact ⟨registered, hmem, hby, (hfront husers hid).2 (by decide)⟩

/-- **The wildcard below a controller is no name of its own.** -/
theorem wildcard_is_fused :
    ¬ ∀ controller route, IsBlankFree controller → IsBlankFree route →
      names (join controller route) = names controller ++ names route := by
  intro h
  have hcontroller : IsBlankFree "api" := by decide +kernel
  have hroute : IsBlankFree "*" := by decide +kernel
  exact absurd (h "api" "*" hcontroller hroute) (by decide +kernel)

end JavaScript

end RepoAtlas
