import RepoAtlas.Proofs.Data.Ascending
import RepoAtlas.Proofs.Inventory.Intake
import RepoAtlas.Proofs.Path.Locations

/-!
# What lists of files are refused for

Whatever is handed over as a list of files, it is clear what should become of it.  `Acceptable` says
so without going through the list: every element is a file whose path, bytes and size are in order,
and no two have the same path.

**Acceptance.**  `Acceptable` lists are accepted and no others (`exists_accept_iff`); what comes of
them is an inventory, one pending record for each file.

**Complaints.**  A complaint is about one element, and `IntakeError.AppliesTo` is what it says of
it.  Several complaints may apply to an element.  The one that is made is about the first element at
which the list stops being acceptable, and of those that apply to it the one with the least rank
(`exists_of_checkFrom_eq_error`).
-/

namespace RepoAtlas

open List

/-! ## Files that are in order -/

/-- A path that a file may have: relative, and without names that lead nowhere or back. -/
structure IsFilePath (path : String) : Prop where
  ne_empty : path ≠ ""
  relative : Text.startsWith "/" path = false
  backslash : '\\' ∉ path.toList
  names : ∀ name ∈ Text.segments '/' path, Path.IsName name

instance : DecidablePred IsFilePath := fun path =>
  decidable_of_iff (path ≠ "" ∧ Text.startsWith "/" path = false ∧ '\\' ∉ path.toList ∧
      ∀ name ∈ Text.segments '/' path, Path.IsName name)
    ⟨fun h => ⟨h.1, h.2.1, h.2.2.1, h.2.2.2⟩,
      fun h => ⟨h.ne_empty, h.relative, h.backslash, h.names⟩⟩

/-- The size that is declared for what is handed over, if it is a whole number. -/
def Offered.size? : Offered → Option Int
  | .file _ _ (.int size) => some size
  | _ => none

/-- A file with a proper path, with its bytes, and with their number as its size. -/
def Offered.IsSound (item : Offered) : Prop :=
  ∃ file : SourceFile, IsFilePath file.path ∧ item = file.offered

/-- All elements are in order, and no path occurs twice. -/
structure Acceptable (offered : List Offered) : Prop where
  sound : ∀ item ∈ offered, item.IsSound
  distinct : (offered.map Offered.path?).Nodup

lemma Acceptable.perm {offered offered' : List Offered} (h : Acceptable offered)
    (hperm : offered' ~ offered) : Acceptable offered' where
  sound item hitem := h.sound item (hperm.mem_iff.1 hitem)
  distinct := (hperm.map Offered.path?).nodup_iff.2 h.distinct

/-- The records of what is handed over, in the order of their paths. -/
structure IsInventory (offered : List Offered) (records : List (FileRecord String)) : Prop where
  ascending : Ascending (·.path) records
  pending : ∀ record ∈ records, record.status = .pending ∧ record.failureReason = none
  files : records.map (fun record => (some record.path, some record.size)) ~
    offered.map fun item => (item.path?, item.size?)

/-! ## Complaints -/

namespace IntakeError

/-- What a complaint says of an element that comes after some others. -/
def AppliesTo (before : List Offered) (item : Offered) : IntakeError → Prop
  | .notAList => False
  | .notAFile position kind =>
    position = before.length ∧ ∃ value, item = .other value ∧ kind = Intake.kindName value
  | .noPath position =>
    position = before.length ∧ ∃ path content size, item = .file path content size ∧
      ∀ name, path = .str name → name = ""
  | .notRelative path =>
    item.path? = some path ∧ (Text.startsWith "/" path = true ∨ '\\' ∈ path.toList)
  | .oddSegments path =>
    item.path? = some path ∧ ∃ name ∈ Text.segments '/' path, ¬ Path.IsName name
  | .duplicate path => item.path? = some path ∧ some path ∈ before.map Offered.path?
  | .contentNotBytes path => ∃ value size, item = .file (.str path) (.other value) size
  | .badSize path =>
    ∃ content size, item = .file (.str path) content size ∧ ∀ count : ℕ, size ≠ .int count
  | .wrongSize path declared actual =>
    ∃ bytes, item = .file (.str path) (.bytes bytes) (.int declared) ∧ actual = bytes.length ∧
      declared ≠ actual

/-- The place of a complaint in the order in which an element is checked. -/
def rank : IntakeError → ℕ
  | .notAList => 0
  | .notAFile .. => 1
  | .noPath _ => 2
  | .notRelative _ => 3
  | .oddSegments _ => 4
  | .duplicate _ => 5
  | .contentNotBytes _ => 6
  | .badSize _ => 7
  | .wrongSize .. => 8

/-- The complaint applies to the element, and none does that comes earlier. -/
structure IsFirstComplaint (before : List Offered) (item : Offered) (e : IntakeError) : Prop where
  applies : e.AppliesTo before item
  least : ∀ other : IntakeError, other.AppliesTo before item → e.rank ≤ other.rank

end IntakeError

namespace Intake

variable {position : ℕ} {seen : List String} {path : String} {before items : List Offered}
  {item : Offered} {file : SourceFile} {files : List SourceFile} {e : IntakeError}

/-! ## One element -/

lemma isOddSegment_iff {segment : String} :
    isOddSegment segment = true ↔ ¬ Path.IsName segment := by
  simp [isOddSegment, Path.IsName, or_iff_not_imp_left]

lemma checkPath_eq_ok_iff (hsome : path ≠ "") : checkPath path = .ok () ↔ IsFilePath path := by
  unfold checkPath
  split_ifs with hrelative hodd
  · refine iff_of_false (by simp) fun h => ?_
    simp [h.relative, h.backslash] at hrelative
  · refine iff_of_false (by simp) fun h => ?_
    obtain ⟨name, hname, hodd⟩ := any_eq_true.1 hodd
    exact isOddSegment_iff.1 hodd (h.names name hname)
  · rw [Bool.or_eq_true, not_or, Bool.not_eq_true, contains_iff_mem] at hrelative
    refine iff_of_true rfl ⟨hsome, hrelative.1, hrelative.2, fun name hname => ?_⟩
    by_contra hname'
    exact hodd (any_eq_true.2 ⟨name, hname, isOddSegment_iff.2 hname'⟩)

lemma checkSize_eq_ok_iff {bytes : List UInt8} {size : Value} :
    checkSize path bytes size = .ok () ↔ size = .int bytes.length := by
  unfold checkSize
  split
  · split_ifs <;> simp_all
    omega
  · simp_all

/-- **An element that passes** is a file as it should be, with a path that is new. -/
lemma checkFile_eq_ok_iff : checkFile position seen item = .ok file ↔
    item = file.offered ∧ IsFilePath file.path ∧ file.path ∉ seen := by
  constructor
  · intro h
    unfold checkFile at h
    split at h
    · cases h
    · rename_i path content size
      split_ifs at h with hempty hseen
      · obtain ⟨_, -, h⟩ := bind_eq_ok.1 h
        cases h
      obtain ⟨_, hpath, h⟩ := bind_eq_ok.1 h
      cases content with
      | other value => cases h
      | bytes bytes =>
          obtain ⟨_, hsize, h⟩ := bind_eq_ok.1 h
          cases h
          rw [checkSize_eq_ok_iff.1 hsize]
          exact ⟨rfl, (checkPath_eq_ok_iff hempty).1 hpath, by simpa using hseen⟩
    · cases h
  · rintro ⟨rfl, hpath, hnew⟩
    have hnew : seen.contains file.path = false := by simpa using hnew
    simp only [checkFile, SourceFile.offered, if_neg hpath.ne_empty,
      (checkPath_eq_ok_iff hpath.ne_empty).2 hpath, hnew, checkSize_eq_ok_iff.2 rfl]
    rfl

/-- What a complaint of a certain rank says of a file that has a path. -/
lemma rank_of_appliesTo {content : OfferedContent} {size : Value}
    (h : e.AppliesTo before (.file (.str path) content size)) :
    e.rank = 2 ∧ path = "" ∨
    e.rank = 3 ∧ (Text.startsWith "/" path = true ∨ '\\' ∈ path.toList) ∨
    e.rank = 4 ∧ (∃ name ∈ Text.segments '/' path, ¬ Path.IsName name) ∨
    e.rank = 5 ∧ some path ∈ before.map Offered.path? ∨
    e.rank = 6 ∧ (∃ value, content = .other value) ∨
    e.rank = 7 ∧ (∀ count : ℕ, size ≠ .int count) ∨
    e.rank = 8 ∧ (∃ bytes, content = .bytes bytes ∧ size ≠ .int bytes.length) := by
  cases e <;> simp_all [IntakeError.AppliesTo, IntakeError.rank, Offered.path?]
  case wrongSize =>
    obtain ⟨bytes, ⟨-, hcontent, rfl⟩, rfl, hne⟩ := h
    exact ⟨bytes, hcontent, by simpa using hne⟩

lemma five_le_rank {content : OfferedContent} {size : Value} (hpath : IsFilePath path)
    (h : e.AppliesTo before (.file (.str path) content size)) : 5 ≤ e.rank := by
  obtain ⟨-, hempty⟩ | ⟨-, hrelative⟩ | ⟨-, name, hname, hodd⟩ | hrank := rank_of_appliesTo h
  · exact absurd hempty hpath.ne_empty
  · rw [hpath.relative] at hrelative
    exact absurd hrelative (by simp [hpath.backslash])
  · exact absurd (hpath.names name hname) hodd
  · omega

lemma isFirstComplaint_of_checkPath {content : OfferedContent} {size : Value} (hempty : path ≠ "")
    (h : checkPath path = .error e) :
    e.IsFirstComplaint before (.file (.str path) content size) := by
  unfold checkPath at h
  split_ifs at h with hrelative hodd
  · cases h
    rw [Bool.or_eq_true, contains_iff_mem] at hrelative
    refine ⟨⟨rfl, hrelative⟩, fun other hother => ?_⟩
    change 3 ≤ other.rank
    obtain ⟨-, hnone⟩ | hrank := rank_of_appliesTo hother
    · exact absurd hnone hempty
    · omega
  · cases h
    obtain ⟨name, hname, hodd⟩ := any_eq_true.1 hodd
    refine ⟨⟨rfl, name, hname, isOddSegment_iff.1 hodd⟩, fun other hother => ?_⟩
    change 4 ≤ other.rank
    obtain ⟨-, hnone⟩ | ⟨-, hstart⟩ | hrank := rank_of_appliesTo hother
    · exact absurd hnone hempty
    · rw [← contains_iff_mem, ← Bool.or_eq_true] at hstart
      exact absurd hstart hrelative
    · omega

lemma isFirstComplaint_of_checkSize {bytes : List UInt8} {size : Value} (hpath : IsFilePath path)
    (hnew : some path ∉ before.map Offered.path?) (h : checkSize path bytes size = .error e) :
    e.IsFirstComplaint before (.file (.str path) (.bytes bytes) size) := by
  have hleast : ∀ other : IntakeError,
      other.AppliesTo before (.file (.str path) (.bytes bytes) size) → 7 ≤ other.rank := by
    intro other hother
    have hrank := rank_of_appliesTo hother
    have hpassed := five_le_rank hpath hother
    grind
  unfold checkSize at h
  split at h
  case h_1 declared =>
    split_ifs at h with hnegative hlength
    · cases h
      refine ⟨⟨_, _, rfl, fun count hcount => ?_⟩, hleast⟩
      rw [Value.int.injEq] at hcount
      omega
    · cases h
      refine ⟨⟨bytes, rfl, rfl, hlength⟩, fun other hother => ?_⟩
      have hcount : declared = (declared.toNat : Int) := by omega
      have hrank := rank_of_appliesTo hother
      have hpassed := hleast other hother
      change 8 ≤ other.rank
      grind
  case h_2 hnone =>
    cases h
    exact ⟨⟨_, _, rfl, fun count => hnone count⟩, hleast⟩

/-- **An element that does not pass** is complained of, and the first complaint is made. -/
lemma isFirstComplaint_of_checkFile
    (hseen : ∀ path, path ∈ seen ↔ some path ∈ before.map Offered.path?)
    (h : checkFile before.length seen item = .error e) : e.IsFirstComplaint before item := by
  unfold checkFile at h
  split at h
  case h_1 value =>
    cases h
    refine ⟨⟨rfl, value, rfl, rfl⟩, fun other hother => ?_⟩
    cases other <;> simp_all [IntakeError.AppliesTo, IntakeError.rank]
  case h_2 path content size =>
    -- What has passed the checks so far leaves no complaint of a lower rank.
    split_ifs at h with hempty hold
    · cases h
      refine ⟨⟨rfl, _, _, _, rfl, by simp [hempty]⟩, fun other hother => ?_⟩
      have hrank := rank_of_appliesTo hother
      change 2 ≤ other.rank
      omega
    · obtain hpath | ⟨_, hpath, h⟩ := bind_eq_error.1 h
      · exact isFirstComplaint_of_checkPath hempty hpath
      · have hpath := (checkPath_eq_ok_iff hempty).1 hpath
        cases h
        have hold := (hseen path).1 (by simpa using hold)
        refine ⟨⟨rfl, hold⟩, fun other hother => ?_⟩
        exact five_le_rank hpath hother
    · obtain hpath | ⟨_, hpath, h⟩ := bind_eq_error.1 h
      · exact isFirstComplaint_of_checkPath hempty hpath
      · have hnew : some path ∉ before.map Offered.path? := by
          rwa [← hseen, ← contains_iff_mem]
        have hpath := (checkPath_eq_ok_iff hempty).1 hpath
        cases content with
        | other value =>
            cases h
            refine ⟨⟨value, size, rfl⟩, fun other hother => ?_⟩
            have hrank := rank_of_appliesTo hother
            have hpassed := five_le_rank hpath hother
            change 6 ≤ other.rank
            grind
        | bytes bytes =>
            obtain hsize | ⟨_, -, h⟩ := bind_eq_error.1 h
            · exact isFirstComplaint_of_checkSize hpath hnew hsize
            · cases h
  case h_3 path content size hnone =>
    cases h
    refine ⟨⟨rfl, path, content, size, rfl, fun name hname => absurd hname (hnone name)⟩, ?_⟩
    intro other hother
    change 2 ≤ other.rank
    cases other <;> simp_all [IntakeError.AppliesTo, IntakeError.rank]

/-! ## A list of elements -/

/-- **A list that passes** consists of files as they should be, each with a path that is new. -/
lemma checkFrom_eq_ok_iff : checkFrom position seen items = .ok files ↔
    items = files.map SourceFile.offered ∧
      (∀ file ∈ files, IsFilePath file.path ∧ file.path ∉ seen) ∧ (files.map (·.path)).Nodup := by
  induction items generalizing position seen files with
  | nil =>
      rw [checkFrom, Except.ok.injEq]
      constructor
      · rintro rfl
        simp
      · rintro ⟨h, -⟩
        exact (map_eq_nil_iff.1 h.symm).symm
  | cons item more ih =>
      rw [checkFrom, bind_eq_ok]
      simp only [checkFile_eq_ok_iff, bind_eq_ok, ih]
      constructor
      · rintro ⟨file, ⟨rfl, hpath, hnew⟩, rest, ⟨rfl, hrest, hdistinct⟩, h⟩
        cases h
        refine ⟨rfl, forall_mem_cons.2 ⟨⟨hpath, hnew⟩, fun other hother => ?_⟩, ?_⟩
        · exact ⟨(hrest other hother).1, fun h => (hrest other hother).2 (mem_cons_of_mem _ h)⟩
        · rw [map_cons, nodup_cons]
          refine ⟨fun hmem => ?_, hdistinct⟩
          obtain ⟨other, hother, hsame⟩ := mem_map.1 hmem
          exact (hrest other hother).2 (hsame ▸ mem_cons_self)
      · rintro ⟨hitems, hfiles, hdistinct⟩
        obtain ⟨file, rest, rfl, rfl, rfl⟩ := map_eq_cons_iff.1 hitems.symm
        rw [map_cons, nodup_cons] at hdistinct
        rw [forall_mem_cons] at hfiles
        refine ⟨file, ⟨rfl, hfiles.1⟩, rest, ⟨rfl, fun other hother => ?_, hdistinct.2⟩, rfl⟩
        refine ⟨(hfiles.2 other hother).1, fun h => ?_⟩
        rcases mem_cons.1 h with heq | hseen
        · exact hdistinct.1 (heq ▸ mem_map_of_mem hother)
        · exact (hfiles.2 other hother).2 hseen

/-- **A list that does not pass** is complained of for one element: those before it would pass. -/
lemma exists_of_checkFrom_eq_error
    (hseen : ∀ path, path ∈ seen ↔ some path ∈ before.map Offered.path?)
    (h : checkFrom before.length seen items = .error e) :
    ∃ front item back, items = front ++ item :: back ∧
      (∃ files, checkFrom before.length seen front = .ok files) ∧
      e.IsFirstComplaint (before ++ front) item := by
  induction items generalizing before seen with
  | nil => cases h
  | cons item more ih =>
      obtain hitem | ⟨file, hfile, h⟩ := bind_eq_error.1 h
      · refine ⟨[], item, more, rfl, ⟨[], rfl⟩, ?_⟩
        rw [append_nil]
        exact isFirstComplaint_of_checkFile hseen hitem
      · have hmore : checkFrom (before ++ [item]).length (file.path :: seen) more = .error e := by
          obtain hmore | ⟨_, -, h⟩ := bind_eq_error.1 h
          · rwa [length_append, length_singleton]
          · cases h
        obtain ⟨rfl, -, -⟩ := checkFile_eq_ok_iff.1 hfile
        have hseen' : ∀ path, path ∈ file.path :: seen ↔
            some path ∈ (before ++ [file.offered]).map Offered.path? := by
          intro path
          rw [mem_cons, map_append, mem_append, hseen, or_comm]
          simp [SourceFile.offered, Offered.path?]
        obtain ⟨front, other, back, rfl, ⟨files, hfront⟩, hfirst⟩ := ih hseen' hmore
        refine ⟨file.offered :: front, other, back, rfl, ⟨file :: files, ?_⟩, ?_⟩
        · rw [length_append, length_singleton] at hfront
          rw [checkFrom, hfile]
          simp only [bind, Except.bind, hfront]
          rfl
        · rwa [append_assoc, singleton_append] at hfirst

end Intake

namespace SourceFile

variable {before offered : List Offered} {item : Offered} {files : List SourceFile}
  {e : IntakeError}

lemma exists_eq_map_offered (h : ∀ item ∈ offered, item.IsSound) :
    ∃ files : List SourceFile, (∀ file ∈ files, IsFilePath file.path) ∧
      offered = files.map SourceFile.offered := by
  induction offered with
  | nil => exact ⟨[], by simp, rfl⟩
  | cons item rest ih =>
      rw [forall_mem_cons] at h
      obtain ⟨file, hpath, rfl⟩ := h.1
      obtain ⟨files, hfiles, rfl⟩ := ih h.2
      exact ⟨file :: files, forall_mem_cons.2 ⟨hpath, hfiles⟩, rfl⟩

/-- **What is accepted** is what is in order. -/
lemma exists_accept_iff : (∃ files, accept offered = .ok files) ↔ Acceptable offered := by
  simp only [accept, Intake.checkFrom_eq_ok_iff]
  have hpaths (files : List SourceFile) :
      (files.map SourceFile.offered).map Offered.path? = (files.map (·.path)).map some := by
    rw [map_map, map_map]
    rfl
  constructor
  · rintro ⟨files, rfl, hfiles, hdistinct⟩
    refine ⟨fun item hitem => ?_, ?_⟩
    · obtain ⟨file, hfile, rfl⟩ := mem_map.1 hitem
      exact ⟨file, (hfiles file hfile).1, rfl⟩
    · rw [hpaths]
      exact hdistinct.map (Option.some_injective _)
  · rintro ⟨hsound, hdistinct⟩
    obtain ⟨files, hfiles, rfl⟩ := exists_eq_map_offered hsound
    refine ⟨files, rfl, fun file hfile => ⟨hfiles file hfile, not_mem_nil⟩, ?_⟩
    rw [hpaths] at hdistinct
    exact hdistinct.of_map _

/-- What is accepted is what was handed over. -/
lemma offered_of_accept (h : accept offered = .ok files) : offered = files.map SourceFile.offered :=
  (Intake.checkFrom_eq_ok_iff.1 h).1

/-- An element that is complained of is one too many. -/
lemma not_acceptable_of_appliesTo (h : e.AppliesTo before item) :
    ¬ Acceptable (before ++ [item]) := by
  rintro ⟨hsound, hdistinct⟩
  obtain ⟨file, hpath, rfl⟩ := hsound item (mem_append_right _ (mem_singleton_self item))
  rw [map_append, map_singleton, nodup_append_comm, singleton_append, nodup_cons] at hdistinct
  have hnew : some file.path ∉ before.map Offered.path? := hdistinct.1
  have hpassed := Intake.five_le_rank hpath h
  obtain ⟨hrank, -⟩ | ⟨hrank, -⟩ | ⟨hrank, -⟩ | ⟨-, hold⟩ | ⟨-, value, hvalue⟩ | ⟨-, hsize⟩ |
    ⟨-, bytes, hbytes, hsize⟩ := Intake.rank_of_appliesTo h
  · omega
  · omega
  · omega
  · exact hnew hold
  · cases hvalue
  · exact hsize _ rfl
  · cases hbytes
    exact hsize rfl

lemma isInventory_of_accept (h : accept offered = .ok files) :
    IsInventory offered ((inPathOrder files).map record) := by
  obtain ⟨rfl, -, hdistinct⟩ := Intake.checkFrom_eq_ok_iff.1 h
  have hperm : inPathOrder files ~ files := mergeSort_perm files _
  refine ⟨?_, ?_, ?_⟩
  · have hascending : Ascending SourceFile.path (inPathOrder files) := ascending_byKey hdistinct
    refine pairwise_map.2 (hascending.imp fun {file other} hlt => ?_)
    simpa only [record_eq] using hlt
  · intro record hrecord
    obtain ⟨file, -, rfl⟩ := mem_map.1 hrecord
    rw [record_eq]
    exact ⟨rfl, rfl⟩
  · rw [map_map, map_map]
    simp only [Function.comp_def, record_eq]
    exact hperm.map _

/-- **A list of files is accepted if it is in order, and otherwise refused for its first fault.**
What comes of it is one pending record for each file, in the order of the paths.  What is complained
of is the element at which the list stops being acceptable, and of the complaints that apply to it
it is the first one. -/
theorem offers_are_listed_or_refused (offered : List Offered) :
    ((∃ records, classify offered = .ok records) ↔ Acceptable offered) ∧
    match classify offered with
    | .ok records => IsInventory offered records
    | .error e => ∃ before item after, offered = before ++ item :: after ∧
        Acceptable before ∧ ¬ Acceptable (before ++ [item]) ∧ e.IsFirstComplaint before item := by
  constructor
  · rw [← exists_accept_iff]
    cases h : accept offered <;> simp [classify, h, Except.map]
  · cases h : accept offered with
    | ok files =>
        simp only [classify, h, Except.map]
        exact isInventory_of_accept h
    | error e =>
        simp only [classify, h, Except.map]
        have hseen : ∀ path, path ∈ [] ↔ some path ∈ ([] : List Offered).map Offered.path? := by
          simp
        obtain ⟨before, item, after, rfl, hbefore, hfirst⟩ :=
          Intake.exists_of_checkFrom_eq_error hseen h
        refine ⟨before, item, after, rfl, exists_accept_iff.1 hbefore, ?_, hfirst⟩
        exact not_acceptable_of_appliesTo hfirst.applies

end SourceFile

end RepoAtlas
