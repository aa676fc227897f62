import RecordTables.Declaration.Outline
import RecordTables.Proofs.Check
import RecordTables.Proofs.Declaration.Names

/-!
# Reading declarations

A declaration that is read without an error becomes what its marks say, field by field. All along
the fields the name of the key is that of the one field marked as the key so far, so no second field
can be the key, and the key refers to nothing.
-/

namespace RecordTables

open RecordDeclaration

/-- The last name that the marks of one kind set. -/
def lastSetting (name : String) (marks : List Mark) : Option String :=
  ((settings name marks).filterMap Except.toOption).getLast?.map Prod.snd

/-- The name of the table: the last one that is set, or else that of the type. -/
def RecordDeclaration.storedName (d : RecordDeclaration) : String :=
  (lastSetting "table" d.marks).getD d.name

namespace FieldDeclaration

/-- The name of the column: the last one that is set, or else that of the field. -/
def columnName (f : FieldDeclaration) : String :=
  (lastSetting "column" f.marks).getD f.name

/-- Whether the field is marked as the primary key. -/
def isKey (f : FieldDeclaration) : Bool :=
  hasMark "primary_key" f.marks

def reference? (f : FieldDeclaration) : Option String :=
  (readReference f.marks).toOption.join

def outline (f : FieldDeclaration) : FieldOutline :=
  ⟨f.name, f.columnName, TypeText.compact f.type, hasMark "unique" f.marks, f.reference?⟩

private theorem reference?_eq {f : FieldDeclaration} {references : Option String}
    (h : readReference f.marks = .ok references) : f.reference? = references := by
  rw [reference?, h]
  rfl

private theorem isSome_readReference {f : FieldDeclaration} {references : Option String}
    (h : readReference f.marks = .ok references) :
    references.isSome = hasMark "foreign_key" f.marks := by
  have hmark : hasMark "foreign_key" f.marks =
      (f.marks.find? fun m => m.name = "foreign_key").isSome := by
    rw [hasMark, Bool.eq_iff_iff, List.find?_isSome, List.any_eq_true]
  rw [hmark]
  rw [readReference] at h
  split at h
  · next hnone =>
    rw [hnone, ← Except.ok.inj h]
    rfl
  · next m hm =>
    obtain ⟨path, _, h⟩ := Check.bind_eq_ok.mp h
    rw [hm, ← Except.ok.inj h]
    rfl

end FieldDeclaration

open FieldDeclaration

private theorem or_getLast?_cons (last : Option String) (entry : String × String)
    (rest : List (String × String)) :
    ((entry :: rest).getLast?.map Prod.snd).or last =
      (rest.getLast?.map Prod.snd).or (some entry.2) := by
  rw [List.getLast?_cons]
  cases rest.getLast? <;> rfl

private theorem readName_eq_ok {check : String → Except DeclarationError Unit}
    {other : DeclarationError}
    {last read : Option String} {items : List Setting}
    (h : readName check other last items = .ok read) :
    read = ((items.filterMap Except.toOption).getLast?.map Prod.snd).or last := by
  induction items generalizing last with
  | nil => exact (Except.ok.inj h).symm
  | cons item rest ih =>
    obtain ⟨⟨key, name⟩, rfl, hread⟩ := Check.bind_eq_ok.mp h
    dsimp only at hread
    split at hread
    · obtain ⟨_, _, hrest⟩ := Check.bind_eq_ok.mp hread
      have hfirst : (Except.ok (key, name) : Setting).toOption = some (key, name) := rfl
      rw [List.filterMap_cons_some hfirst, or_getLast?_cons]
      exact ih hrest
    · cases hread

private theorem requireName_eq_ok {error : NameFault → DeclarationError} {name : String}
    (h : requireName error name = .ok ()) : Identifier.IsValid name := by
  rw [requireName] at h
  split at h
  · next hnone => exact NameFault.first?_eq_none_iff.mp hnone
  · cases h

private theorem readKey_eq_ok {key next : Option String} {column : String} {marks : List Mark}
    (h : readKey key column marks = .ok next) :
    hasMark "primary_key" marks = false ∧ next = key ∨
      hasMark "primary_key" marks = true ∧ key = none ∧ next = some column := by
  unfold readKey at h
  split at h
  · next hplain => exact .inl ⟨hplain, (Except.ok.inj h).symm⟩
  · next hmark => exact .inr ⟨hmark, rfl, (Except.ok.inj h).symm⟩
  · cases h

/-- What reading fields gives, from the name of the key before them to that after them. -/
structure ReadsFields (key : Option String) (fs : List FieldDeclaration)
    (outlines : List FieldOutline) (last : Option String) : Prop where
  outlines_eq : outlines = fs.map FieldDeclaration.outline
  keys : last.toList = key.toList ++ (fs.filter isKey).map columnName
  valid : ∀ f ∈ fs, Identifier.IsValid f.columnName
  referring : ∀ f ∈ fs, f.reference?.isSome = hasMark "foreign_key" f.marks
  references : ∀ f ∈ fs, f.isKey → f.reference? = none

private theorem readField_eq_ok {key last : Option String} {f : FieldDeclaration}
    {read : FieldOutline}
    (h : readField key f = .ok (read, last)) :
    read = f.outline ∧ Identifier.IsValid f.columnName ∧
      f.reference?.isSome = hasMark "foreign_key" f.marks ∧
      (f.isKey = false ∧ last = key ∨ f.isKey = true ∧ key = none ∧ last = some f.columnName) ∧
      ¬(f.reference?.isSome ∧ last = some f.columnName) := by
  obtain ⟨column?, hcolumn, h⟩ := Check.bind_eq_ok.mp h
  have hname : column?.getD f.name = f.columnName := by
    rw [readName_eq_ok hcolumn, Option.or_none]
    rfl
  rw [hname] at h
  obtain ⟨_, hrequire, h⟩ := Check.bind_eq_ok.mp h
  have hvalid := requireName_eq_ok hrequire
  obtain ⟨next, hnext, h⟩ := Check.bind_eq_ok.mp h
  obtain ⟨references, hreferences, h⟩ := Check.bind_eq_ok.mp h
  rw [← reference?_eq hreferences] at h
  have hreferring := isSome_readReference hreferences
  rw [← reference?_eq hreferences] at hreferring
  split at h
  · cases h
  · next hclash =>
    obtain ⟨rfl, rfl⟩ := Prod.mk.inj (Except.ok.inj h)
    exact ⟨rfl, hvalid, hreferring, readKey_eq_ok hnext, hclash⟩

private theorem readField_reads {key last : Option String} {f : FieldDeclaration}
    {read : FieldOutline}
    (h : readField key f = .ok (read, last)) : ReadsFields key [f] [read] last := by
  obtain ⟨hread, hvalid, hreferring, hkey, hreferences⟩ := readField_eq_ok h
  refine ⟨by rw [hread, List.map_singleton], ?_, by simpa using hvalid, by simpa using hreferring,
    ?_⟩
  · rcases hkey with ⟨hplain, rfl⟩ | ⟨hmark, rfl, rfl⟩
    · simp [hplain]
    · simp [hmark]
  · rcases hkey with ⟨hplain, rfl⟩ | ⟨hmark, rfl, rfl⟩
    · simp [hplain]
    · have hnone : f.reference? = none := by simpa using hreferences
      simp [hnone]

theorem ReadsFields.append {key middle last : Option String} {fs gs : List FieldDeclaration}
    {reads more : List FieldOutline} (hfs : ReadsFields key fs reads middle)
    (hgs : ReadsFields middle gs more last) : ReadsFields key (fs ++ gs) (reads ++ more) last := by
  refine ⟨?_, ?_, ?_, ?_, ?_⟩
  · rw [hfs.outlines_eq, hgs.outlines_eq, List.map_append]
  · rw [hgs.keys, hfs.keys, List.filter_append, List.map_append, List.append_assoc]
  · exact List.forall_mem_append.mpr ⟨hfs.valid, hgs.valid⟩
  · exact List.forall_mem_append.mpr ⟨hfs.referring, hgs.referring⟩
  · exact List.forall_mem_append.mpr ⟨hfs.references, hgs.references⟩

private theorem readFields_reads {key last : Option String} {fs : List FieldDeclaration}
    {reads : List FieldOutline} (h : readFields key fs = .ok (reads, last)) :
    ReadsFields key fs reads last := by
  induction fs generalizing key reads with
  | nil =>
    obtain ⟨rfl, rfl⟩ := Prod.mk.inj (Except.ok.inj h)
    exact ⟨rfl, by simp, by simp, by simp, by simp⟩
  | cons f fs ih =>
    obtain ⟨⟨read, middle⟩, hread, h⟩ := Check.bind_eq_ok.mp h
    obtain ⟨⟨more, last⟩, hmore, h⟩ := Check.bind_eq_ok.mp h
    obtain ⟨rfl, rfl⟩ := Prod.mk.inj (Except.ok.inj h)
    exact (readField_reads hread).append (ih hmore)

theorem outline_reads {d : RecordDeclaration} {o : EntityOutline} (h : d.outline = .ok o) :
    o.name = d.name ∧ o.tableName = lastSetting "table" d.marks ∧
      ReadsFields none d.fields o.fields o.primaryKey := by
  obtain ⟨tableName, htable, h⟩ := Check.bind_eq_ok.mp h
  split at h
  · obtain ⟨⟨fields, primaryKey⟩, hfields, h⟩ := Check.bind_eq_ok.mp h
    obtain rfl := Except.ok.inj h
    refine ⟨rfl, ?_, readFields_reads hfields⟩
    rw [readName_eq_ok htable, Option.or_none]
    rfl
  · cases h

theorem ReadsFields.exists_key {fs : List FieldDeclaration} {reads : List FieldOutline}
    {last : Option String} (h : ReadsFields none fs reads last) (hkey : ∃ f ∈ fs, f.isKey) :
    ∃ k, fs.filter isKey = [k] ∧ last = some k.columnName := by
  obtain ⟨f, hf, hmark⟩ := hkey
  have hmem : f ∈ fs.filter isKey := List.mem_filter.mpr ⟨hf, hmark⟩
  have hkeys := h.keys
  cases last with
  | none =>
    have hnil : fs.filter isKey = [] := by simpa using hkeys.symm
    rw [hnil] at hmem
    cases hmem
  | some name =>
    obtain ⟨k, hk, hname⟩ := List.map_eq_singleton_iff.mp hkeys.symm
    exact ⟨k, hk, by rw [hname]⟩

end RecordTables
