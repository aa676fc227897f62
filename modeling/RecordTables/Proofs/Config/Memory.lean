import Mathlib.Data.List.Infix
import RecordTables.Proofs.Config.Urls

/-!
# Databases in memory

A database in memory lives as long as its connection, so that its pool must have just one. Where
there is no URL, the name alone is compared with the one that means memory. A URL is searched for
two marks, and the name is a part of the URL that is made of it.
-/

namespace RecordTables

open Text

theorem Text.occursIn_iff {part s : List Char} : occursIn part s ↔ part <:+: s := by
  induction s with
  | nil => simp [occursIn]
  | cons c s ih =>
    rw [occursIn, Bool.or_eq_true, ih, List.isPrefixOf_iff_prefix, List.infix_cons_iff]

namespace DatabaseConfig

variable {c opened : DatabaseConfig} {url : String}

/-- The marks of a URL that leads to a database in memory. -/
def memoryMarks : List String :=
  [":memory:", "mode=memory"]

/-- One of the marks stands somewhere in the text. -/
def HasMemoryMark (s : String) : Prop :=
  ∃ mark ∈ memoryMarks, mark.toList <:+: s.toList

private theorem hasMemoryMark_iff {s : String} : HasMemoryMark s ↔
    ":memory:".toList <:+: s.toList ∨ "mode=memory".toList <:+: s.toList := by
  simp only [HasMemoryMark, memoryMarks, List.mem_cons, List.not_mem_nil, or_false,
    exists_eq_or_imp, exists_eq_left]

private theorem hasMemoryMark_memory : HasMemoryMark memory :=
  hasMemoryMark_iff.mpr (by decide)

private theorem isInMemory_of_some (hurl : c.url = some url) (hdialect : c.dialect = .sqlite) :
    c.isInMemory ↔ HasMemoryMark url := by
  rw [isInMemory, hurl, hasMemoryMark_iff]
  simp [hdialect, occursIn_iff, memory]

private theorem isInMemory_of_none (hurl : c.url = none) (hdialect : c.dialect = .sqlite) :
    c.isInMemory ↔ c.database = memory := by
  rw [isInMemory, hurl]
  simp [hdialect]

private theorem hasMemoryMark_append {s : String} :
    HasMemoryMark ("sqlite://" ++ s) ↔ HasMemoryMark s := by
  have hscheme : "sqlite://".toList = ['s', 'q', 'l', 'i', 't', 'e', ':', '/', '/'] := rfl
  have hname : ":memory:".toList = [':', 'm', 'e', 'm', 'o', 'r', 'y', ':'] := rfl
  have hmode : "mode=memory".toList = ['m', 'o', 'd', 'e', '=', 'm', 'e', 'm', 'o', 'r', 'y'] := rfl
  rw [hasMemoryMark_iff, hasMemoryMark_iff, String.toList_append, hscheme, hname, hmode]
  simp only [List.cons_append, List.nil_append, List.infix_cons_iff, List.cons_prefix_cons]
  simp

private theorem hasMemoryMark_connectionString (hurl : c.url = none)
    (hdialect : c.dialect = .sqlite) :
    HasMemoryMark c.connectionString ↔ HasMemoryMark c.database := by
  rw [connectionString_of_sqlite hurl hdialect]
  split
  · next hmemory =>
    rw [hmemory]
    exact iff_of_true (hasMemoryMark_iff.mpr (by decide)) hasMemoryMark_memory
  · exact hasMemoryMark_append

private theorem isInMemory_of_ofUrl (hurl : c.url = none) (hdialect : c.dialect = .sqlite)
    (h : ofUrl c.connectionString = .ok opened) :
    opened.isInMemory ↔ HasMemoryMark c.database := by
  obtain ⟨dialect, hscheme, rfl⟩ := ofUrl_eq_ok_iff.mp h
  have hsqlite : dialect = .sqlite := hscheme.unique (hdialect ▸ hasScheme_connectionString hurl)
  rw [isInMemory_of_some rfl hsqlite, hasMemoryMark_connectionString hurl hdialect]

private theorem poolBounds_eq_one_iff :
    c.poolBounds = (1, 1) ↔ c.isInMemory ∨ c.minConnections = 1 ∧ c.maxConnections = 1 := by
  rw [poolBounds]
  split
  · next hmemory => simp [hmemory]
  · next hmemory => simp [hmemory]

private theorem poolBounds_of_ofUrl (h : ofUrl url = .ok opened) :
    opened.poolBounds = (1, 1) ↔ opened.isInMemory := by
  obtain ⟨dialect, _, rfl⟩ := ofUrl_eq_ok_iff.mp h
  rw [poolBounds_eq_one_iff]
  simp

/-- The fields of a configuration and the URL that is made of them agree on whether the database is
in memory unless a name that is not the one for memory holds a mark. Then the URL pins the pool and
the fields do not; other than that only sizes of one make a pool of one. -/
theorem pools_are_pinned_alike_but_for_marked_names (hurl : c.url = none)
    (hdialect : c.dialect = .sqlite) :
    ∃ opened, ofUrl c.connectionString = .ok opened ∧
      (c.isInMemory = opened.isInMemory ↔ c.database = memory ∨ ¬HasMemoryMark c.database) ∧
      (c.isInMemory → opened.isInMemory) ∧
      (c.poolBounds = (1, 1) ↔ c.isInMemory ∨ c.minConnections = 1 ∧ c.maxConnections = 1) ∧
      (opened.poolBounds = (1, 1) ↔ opened.isInMemory) := by
  obtain ⟨opened, hopened, -⟩ := exists_opened_iff.mpr (hasScheme_connectionString hurl)
  have hfields := isInMemory_of_none hurl hdialect
  have hurl' := isInMemory_of_ofUrl hurl hdialect hopened
  have hmark : c.database = memory → HasMemoryMark c.database :=
    fun hmemory => hmemory ▸ hasMemoryMark_memory
  refine ⟨opened, hopened, ?_, ?_, poolBounds_eq_one_iff, poolBounds_of_ofUrl hopened⟩
  · rw [Bool.eq_iff_iff, hfields, hurl']
    tauto
  · rw [hfields, hurl']
    exact hmark

theorem pools_are_pinned_alike_but_for_marked_names_of_file :
    let file := sqlite "memory.db"
    file.url = none ∧ file.dialect = .sqlite ∧ ¬HasMemoryMark file.database ∧
      ∃ opened, ofUrl file.connectionString = .ok opened ∧
        file.isInMemory = opened.isInMemory ∧ ¬file.isInMemory ∧ opened.poolBounds ≠ (1, 1) := by
  intro file
  have hunmarked : ¬HasMemoryMark file.database := by
    rw [hasMemoryMark_iff]
    decide
  have hurl : file.url = none := rfl
  have hdialect : file.dialect = .sqlite := rfl
  obtain ⟨opened, hopened, hagree, -, -, hpool⟩ :=
    pools_are_pinned_alike_but_for_marked_names hurl hdialect
  have hfile : ¬file.isInMemory := by decide
  have hsame := hagree.mpr (.inr hunmarked)
  refine ⟨hurl, hdialect, hunmarked, opened, hopened, hsame, hfile, ?_⟩
  rw [Ne, hpool, ← hsame]
  exact hfile

/-- With the fields alone, each of ten connections has a database in memory of its own. -/
theorem marked_name_is_not_pinned :
    let c := sqlite "music.db?mode=memory"
    ∃ opened, c.url = none ∧ c.dialect = .sqlite ∧ ofUrl c.connectionString = .ok opened ∧
      c.isInMemory = false ∧ opened.isInMemory = true ∧
      c.poolBounds = (1, 10) ∧ opened.poolBounds = (1, 1) :=
  ⟨_, rfl, rfl, rfl, rfl, rfl, rfl, rfl⟩

end DatabaseConfig

end RecordTables
