import BuildEnv.Settings.Unit

/-!
# Unit tables

A unit table holds one record for each file, in the order of paths.  A file
is known by the components of its path, so that two spellings of one path are
one key; the first spelling stays.
-/

namespace BuildEnv

/-- Records of files, one for each file, in the order of paths. -/
structure UnitTable where
  entries : List UnitRecord
  /-- No file stands twice, and no file stands before a lesser one. -/
  increasing : entries.Pairwise fun a b => a.file.lt b.file
  deriving DecidableEq, Repr

namespace UnitTable

/-- The table without records. -/
def empty : UnitTable := ⟨[], .nil⟩

/-- Puts a record at the place of its file.  One of the same file gives its
settings up. -/
def insertEntry (u : UnitRecord) : List UnitRecord → List UnitRecord
  | [] => [u]
  | e :: rest =>
    if u.file.lt e.file then u :: e :: rest
    else if e.file.lt u.file then e :: insertEntry u rest
    else ⟨e.file, u.settings⟩ :: rest

/-- The files after a record was put in are those before and its own. -/
theorem file_of_mem_insertEntry {u x : UnitRecord} {entries : List UnitRecord}
    (hx : x ∈ insertEntry u entries) : x.file = u.file ∨ ∃ e ∈ entries, x.file = e.file := by
  induction entries with
  | nil => exact .inl (congrArg UnitRecord.file (List.mem_singleton.mp hx))
  | cons e rest ih =>
    unfold insertEntry at hx
    split at hx
    · rcases List.mem_cons.mp hx with rfl | hx
      · exact .inl rfl
      · exact .inr ⟨x, hx, rfl⟩
    · split at hx
      · rcases List.mem_cons.mp hx with rfl | hx
        · exact .inr ⟨x, List.mem_cons_self, rfl⟩
        · exact (ih hx).imp id fun ⟨y, hy, heq⟩ => ⟨y, List.mem_cons_of_mem _ hy, heq⟩
      · rcases List.mem_cons.mp hx with rfl | hx
        · exact .inr ⟨e, List.mem_cons_self, rfl⟩
        · exact .inr ⟨x, List.mem_cons_of_mem _ hx, rfl⟩

/-- Putting a record in keeps the order. -/
theorem insertEntry_increasing (u : UnitRecord) {entries : List UnitRecord}
    (h : entries.Pairwise fun a b => a.file.lt b.file) :
    (insertEntry u entries).Pairwise fun a b => a.file.lt b.file := by
  induction entries with
  | nil => exact List.pairwise_singleton _ _
  | cons e rest ih =>
    obtain ⟨hhead, htail⟩ := List.pairwise_cons.mp h
    unfold insertEntry
    split
    · next hlt =>
      refine List.pairwise_cons.mpr ⟨fun a ha => ?_, h⟩
      rcases List.mem_cons.mp ha with rfl | ha
      · exact hlt
      · exact Path.lt_trans hlt (hhead a ha)
    · split
      · next hlt =>
        refine List.pairwise_cons.mpr ⟨fun a ha => ?_, ih htail⟩
        rcases file_of_mem_insertEntry ha with heq | ⟨y, hy, heq⟩
        · exact heq ▸ hlt
        · exact heq ▸ hhead y hy
      · exact List.pairwise_cons.mpr ⟨hhead, htail⟩

/-- Sets the settings of a file, in place of earlier ones. -/
def insert (t : UnitTable) (file : Path) (s : UnitSettings) : UnitTable :=
  ⟨insertEntry ⟨file, s⟩ t.entries, insertEntry_increasing _ t.increasing⟩

/-- The settings of a file. -/
def get? (t : UnitTable) (file : Path) : Option UnitSettings :=
  (t.entries.find? fun e => e.file.sameAs file).map UnitRecord.settings

/-- Whether a file has a record. -/
def contains (t : UnitTable) (file : Path) : Bool :=
  (t.get? file).isSome

/-- The files with a record, in the order of paths. -/
def files (t : UnitTable) : List Path :=
  t.entries.map UnitRecord.file

end UnitTable

end BuildEnv
