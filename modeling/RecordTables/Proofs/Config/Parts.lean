import RecordTables.Proofs.Config.Urls
import RecordTables.Proofs.Text.Delimited
import RecordTables.Proofs.Text.Digits

/-!
# Parts of connection strings

The URL of a server joins five parts with the separators `:`, `@`, `:` and `/`. The parts may hold
these characters as well, and then nothing tells them from the separators: other parts join to the
same text as soon as it can be cut elsewhere into parts that pass the check.
-/

namespace RecordTables

open Text

namespace DatabaseConfig

/-- What the URL of a server is made of. -/
@[ext]
structure Parts where
  username : String
  password : String
  host : String
  port : UInt16
  database : String

def parts (c : DatabaseConfig) : Parts :=
  ⟨c.username, c.password, c.host, c.port, c.database⟩

def withParts (c : DatabaseConfig) (p : Parts) : DatabaseConfig :=
  { c with
    username := p.username, password := p.password, host := p.host, port := p.port,
    database := p.database }

/-- The configuration of a server without a URL that has passed its check. -/
structure IsServer (c : DatabaseConfig) : Prop where
  dialect : c.dialect = .postgres
  url : c.url = none
  valid : c.validate = .ok ()

def portMark (port : UInt16) : List Char :=
  ':' :: (digits port.toNat ++ ['/'])

namespace Parts

variable {p q : Parts}

/-- The parts that the check asks for are there. -/
structure IsComplete (p : Parts) : Prop where
  username : p.username ≠ ""
  host : p.host ≠ ""
  port : p.port ≠ 0
  database : p.database ≠ ""

def credentials (p : Parts) : List Char :=
  p.username.toList ++ ':' :: p.password.toList

def address (p : Parts) : List Char :=
  p.host.toList ++ (portMark p.port ++ p.database.toList)

/-- The parts as a URL joins them. -/
def text (p : Parts) : List Char :=
  p.credentials ++ '@' :: p.address

/-- No part holds a separator where the text could be cut instead. A cut leaves something before the
first colon, on both sides of the last one and before the slash, so that a colon at the beginning of
the user name, one without a port in the host and an at sign at the end of the host do no harm. -/
structure IsUnambiguous (p : Parts) : Prop where
  username : ':' ∉ p.username.toList.tail
  password : ':' ∉ p.password.toList ∧ '@' ∉ p.password.toList
  host : '@' ∉ p.host.toList.dropLast
  hostPort : ∀ before after port, port ≠ 0 → before ≠ [] →
    p.host.toList ≠ before ++ (portMark port ++ after)
  databasePort : ∀ before after port, port ≠ 0 → after ≠ [] →
    p.database.toList ≠ before ++ (portMark port ++ after)

/-- No other complete parts are joined to the same text. -/
def IsDetermined (p : Parts) : Prop :=
  ∀ q : Parts, q.IsComplete → q.text = p.text → q = p

/-- User name, password and host end where their separators come first. -/
structure IsSeparated (p : Parts) : Prop where
  username : ':' ∉ p.username.toList
  password : '@' ∉ p.password.toList
  host : '/' ∉ p.host.toList

private theorem notMem_digits_of_not_isDigit {c : Char} (hc : ¬c.isDigit) (n : Nat) :
    c ∉ digits n :=
  fun h => hc (isDigit_of_mem_digits h)

private theorem port_eq_of_digits {m n : UInt16} (h : digits m.toNat = digits n.toNat) : m = n := by
  have hnat := congrArg ofDigits h
  rw [ofDigits_digits, ofDigits_digits] at hnat
  exact UInt16.toNat_inj.mp hnat

private theorem toList_ne_nil {s : String} (h : s ≠ "") : s.toList ≠ [] :=
  mt String.toList_eq_nil_iff.mp h

theorem text_eq (p : Parts) :
    p.text = p.username.toList ++ ':' :: (p.password.toList ++ '@' ::
      (p.host.toList ++ (portMark p.port ++ p.database.toList))) := by
  simp [text, credentials, address]

private theorem eq_of_toList (husername : p.username.toList = q.username.toList)
    (hpassword : p.password.toList = q.password.toList) (hhost : p.host.toList = q.host.toList)
    (hport : p.port = q.port) (hdatabase : p.database.toList = q.database.toList) : p = q :=
  Parts.ext (String.toList_inj.mp husername) (String.toList_inj.mp hpassword)
    (String.toList_inj.mp hhost) hport (String.toList_inj.mp hdatabase)

private theorem portMark_append (port : UInt16) (x : List Char) :
    portMark port ++ x = ':' :: (digits port.toNat ++ '/' :: x) := by
  simp [portMark]

private theorem portMark_append_inj {m n : UInt16} {x y : List Char}
    (h : portMark m ++ x = portMark n ++ y) : m = n ∧ x = y := by
  have hslash (port : UInt16) : '/' ∉ digits port.toNat :=
    notMem_digits_of_not_isDigit (by decide) _
  rw [portMark_append, portMark_append, List.cons_eq_cons] at h
  obtain ⟨hdigits, hxy⟩ := append_cons_inj_of_notMem (hslash m) (hslash n) h.2
  exact ⟨port_eq_of_digits hdigits, hxy⟩

private theorem portMark_append_cases {m n : UInt16} {s x y : List Char}
    (h : portMark m ++ x = s ++ (portMark n ++ y)) :
    s = [] ∧ m = n ∧ x = y ∨ ∃ t, s = portMark m ++ t ∧ x = t ++ (portMark n ++ y) := by
  cases s with
  | nil =>
    obtain ⟨hport, hxy⟩ := portMark_append_inj h
    exact .inl ⟨rfl, hport, hxy⟩
  | cons c s =>
    have hcolon : ':' ∉ digits m.toNat := notMem_digits_of_not_isDigit (by decide) _
    rw [portMark_append, portMark_append, List.cons_append, List.cons_eq_cons] at h
    obtain ⟨rfl, hrest⟩ := h
    rcases append_cons_eq_append_cons hrest with ⟨_, hmark, _⟩ | ⟨t, rfl, hx⟩ | ⟨t, hdigits, _⟩
    · exact absurd hmark (by decide)
    · rw [← portMark_append] at hx
      exact .inr ⟨t, (portMark_append m t).symm, hx⟩
    · exact absurd (hdigits ▸ List.mem_append_right _ List.mem_cons_self) hcolon

namespace IsUnambiguous

private theorem credentials_cut (h : p.IsUnambiguous) {s x : List Char} (hs : s ≠ [])
    (hcut : p.credentials = s ++ ':' :: x) :
    p.username.toList = s ∧ p.password.toList = x := by
  rcases append_cons_eq_append_cons hcut with ⟨hname, _, hrest⟩ | ⟨m, _, hrest⟩ | ⟨m, hname, _⟩
  · exact ⟨hname, hrest⟩
  · exact absurd (hrest ▸ List.mem_append_right _ List.mem_cons_self) h.password.1
  · exact absurd (mem_tail_iff.mpr ⟨s, m, hs, hname⟩) h.username

private theorem address_cut (h : p.IsUnambiguous) {s x : List Char} {port : UInt16} (hs : s ≠ [])
    (hport : port ≠ 0) (hx : x ≠ []) (hcut : p.address = s ++ (portMark port ++ x)) :
    p.host.toList = s ∧ p.port = port ∧ p.database.toList = x := by
  rcases List.append_eq_append_iff.mp hcut with ⟨m, rfl, hm⟩ | ⟨m, hhost, hm⟩
  · rcases portMark_append_cases hm with ⟨rfl, hp, hd⟩ | ⟨t, _, hd⟩
    · exact ⟨(List.append_nil _).symm, hp, hd⟩
    · exact absurd hd (h.databasePort t x port hport hx)
  · rcases portMark_append_cases hm with ⟨rfl, hp, hd⟩ | ⟨t, rfl, _⟩
    · exact ⟨hhost.trans (List.append_nil s), hp.symm, hd.symm⟩
    · exact absurd hhost (h.hostPort s t port hport hs)

private theorem isDetermined (h : p.IsUnambiguous) : p.IsDetermined := by
  intro q hq htext
  have hname := toList_ne_nil hq.username
  have hhost := toList_ne_nil hq.host
  have hdatabase := toList_ne_nil hq.database
  -- Both texts have an at sign in the middle: at the same place, or one before the other.
  rcases append_cons_eq_append_cons htext.symm with
    ⟨hcredentials, _, haddress⟩ | ⟨m, _, haddress⟩ | ⟨m, hcredentials, _⟩
  · obtain ⟨hu, hw⟩ := h.credentials_cut hname hcredentials
    obtain ⟨hh, hp, hd⟩ := h.address_cut hhost hq.port hdatabase haddress
    exact (eq_of_toList hu hw hh hp hd).symm
  · have hcut : p.address =
        (m ++ '@' :: q.host.toList) ++ (portMark q.port ++ q.database.toList) := by
      rw [haddress, address, List.append_assoc, List.cons_append]
    obtain ⟨hh, _, _⟩ := h.address_cut (by simp) hq.port hdatabase hcut
    exact absurd (mem_dropLast_iff.mpr ⟨m, _, hhost, hh⟩) h.host
  · have hcut : p.credentials =
        q.username.toList ++ ':' :: (q.password.toList ++ '@' :: m) := by
      rw [hcredentials, credentials, List.append_assoc, List.cons_append]
    obtain ⟨_, hw⟩ := h.credentials_cut hname hcut
    exact absurd (hw ▸ List.mem_append_right _ List.mem_cons_self) h.password.2

private theorem of_notMem (husername : ':' ∉ p.username.toList) (hcolon : ':' ∉ p.password.toList)
    (hat : '@' ∉ p.password.toList) (hhost : '@' ∉ p.host.toList) (hslash : '/' ∉ p.host.toList)
    (hdatabase : ':' ∉ p.database.toList) : p.IsUnambiguous := by
  constructor
  case username => exact fun h => husername (List.mem_of_mem_tail h)
  case password => exact ⟨hcolon, hat⟩
  case host => exact fun h => hhost ((List.dropLast_sublist _).subset h)
  case hostPort =>
    intro s t port _ _ hst
    exact hslash (by simp [hst, portMark])
  case databasePort =>
    intro s t port _ _ hst
    exact hdatabase (by simp [hst, portMark])

end IsUnambiguous

namespace IsDetermined

theorem cut (h : p.IsDetermined) (u w s : List Char) (n : UInt16) (d : List Char) (hu : u ≠ [])
    (hs : s ≠ []) (hn : n ≠ 0) (hd : d ≠ [])
    (htext : p.text = u ++ ':' :: (w ++ '@' :: (s ++ (portMark n ++ d)))) :
    p.username.toList = u ∧ p.host.toList = s := by
  have hnonempty {x : List Char} (hx : x ≠ []) : String.ofList x ≠ "" := by
    rw [Ne, String.ofList_eq_empty_iff]
    exact hx
  let q : Parts := ⟨String.ofList u, String.ofList w, String.ofList s, n, String.ofList d⟩
  have hcomplete : q.IsComplete := ⟨hnonempty hu, hnonempty hs, hn, hnonempty hd⟩
  have hq : q.text = p.text := by
    rw [htext, text_eq]
    simp only [q, String.toList_ofList]
  rw [← h q hcomplete hq]
  exact ⟨String.toList_ofList, String.toList_ofList⟩

/-- Each separator in a wrong place allows a cut there. What is between it and the place of the
separator goes to the part on the other side. -/
private theorem isUnambiguous (h : p.IsDetermined) (hp : p.IsComplete) : p.IsUnambiguous := by
  have hname := toList_ne_nil hp.username
  have hhost := toList_ne_nil hp.host
  have hport := hp.port
  have hdatabase := toList_ne_nil hp.database
  constructor
  case username =>
    intro hcolon
    obtain ⟨s, t, hs, hst⟩ := mem_tail_iff.mp hcolon
    have hcut := h.cut s (t ++ ':' :: p.password.toList) p.host.toList p.port p.database.toList
      hs hhost hport hdatabase (by simp [text_eq, hst])
    simp [hst] at hcut
  case password =>
    refine ⟨?_, ?_⟩
    · intro hcolon
      obtain ⟨s, t, hst⟩ := List.append_of_mem hcolon
      have hcut := h.cut (p.username.toList ++ ':' :: s) t p.host.toList p.port p.database.toList
        (by simp) hhost hport hdatabase (by simp [text_eq, hst])
      simp at hcut
    · intro hat
      obtain ⟨s, t, hst⟩ := List.append_of_mem hat
      have hcut := h.cut p.username.toList s (t ++ '@' :: p.host.toList) p.port p.database.toList
        hname (by simp) hport hdatabase (by simp [text_eq, hst])
      have hlength := congrArg List.length hcut.2
      simp only [List.length_append, List.length_cons] at hlength
      omega
  case host =>
    intro hat
    obtain ⟨s, t, ht, hst⟩ := mem_dropLast_iff.mp hat
    have hcut := h.cut p.username.toList (p.password.toList ++ '@' :: s) t p.port
      p.database.toList hname ht hport hdatabase (by simp [text_eq, hst])
    have hlength := congrArg List.length hcut.2
    simp only [hst, List.length_append, List.length_cons] at hlength
    omega
  case hostPort =>
    intro s t n hn hs hst
    have hcut := h.cut p.username.toList p.password.toList s n
      (t ++ (portMark p.port ++ p.database.toList)) hname hs hn (by simp [portMark])
      (by simp [text_eq, hst])
    simp [hst, portMark] at hcut
  case databasePort =>
    intro s t n hn ht hst
    have hcut := h.cut p.username.toList p.password.toList
      (p.host.toList ++ (portMark p.port ++ s)) n t hname (by simp [portMark]) hn ht
      (by simp [text_eq, hst])
    simp [portMark] at hcut

end IsDetermined

private theorem address_inj (hp : '/' ∉ p.host.toList) (hq : '/' ∉ q.host.toList)
    (h : q.address = p.address) :
    q.host.toList = p.host.toList ∧ q.port = p.port ∧ q.database.toList = p.database.toList := by
  have hslash (port : UInt16) (t : List Char) : '/' ∈ portMark port ++ t := by simp [portMark]
  rcases List.append_eq_append_iff.mp h with ⟨m, hhost, hm⟩ | ⟨m, hhost, hm⟩
  · rcases portMark_append_cases hm with ⟨rfl, hport, hdatabase⟩ | ⟨t, rfl, _⟩
    · exact ⟨(hhost.trans (List.append_nil _)).symm, hport, hdatabase⟩
    · exact absurd (hhost ▸ List.mem_append_right _ (hslash q.port t)) hp
  · rcases portMark_append_cases hm with ⟨rfl, hport, hdatabase⟩ | ⟨t, rfl, _⟩
    · exact ⟨hhost.trans (List.append_nil _), hport.symm, hdatabase.symm⟩
    · exact absurd (hhost ▸ List.mem_append_right _ (hslash p.port t)) hq

private theorem IsSeparated.eq_of_text (hp : p.IsSeparated) (hq : q.IsSeparated)
    (h : q.text = p.text) :
    q = p := by
  rw [text_eq, text_eq] at h
  obtain ⟨husername, hrest⟩ := append_cons_inj_of_notMem hq.username hp.username h
  obtain ⟨hpassword, haddress⟩ := append_cons_inj_of_notMem hq.password hp.password hrest
  obtain ⟨hhost, hport, hdatabase⟩ := address_inj hp.host hq.host haddress
  exact eq_of_toList husername hpassword hhost hport hdatabase

end Parts

variable {c d : DatabaseConfig}

private theorem validateLocation_eq_ok_iff (hdialect : c.dialect = .postgres) :
    c.validateLocation = .ok () ↔ c.parts.IsComplete := by
  rw [validateLocation, if_pos hdialect]
  constructor
  · intro h
    split_ifs at h with hdatabase hhost hport husername
    exact ⟨husername, hhost, hport, hdatabase⟩
  · intro h
    have hdatabase : c.database ≠ "" := h.database
    have hhost : c.host ≠ "" := h.host
    have hport : c.port ≠ 0 := h.port
    have husername : c.username ≠ "" := h.username
    rw [if_neg hdatabase, if_neg hhost, if_neg hport, if_neg husername]

private theorem isServer_iff : c.IsServer ↔
    c.dialect = .postgres ∧ c.url = none ∧ c.parts.IsComplete ∧ c.validatePool = .ok () := by
  constructor
  · rintro ⟨hdialect, hurl, hvalid⟩
    obtain ⟨hlocation, hpool⟩ := (validate_of_none hurl).mp hvalid
    exact ⟨hdialect, hurl, (validateLocation_eq_ok_iff hdialect).mp hlocation, hpool⟩
  · rintro ⟨hdialect, hurl, hcomplete, hpool⟩
    have hlocation := (validateLocation_eq_ok_iff hdialect).mpr hcomplete
    exact ⟨hdialect, hurl, (validate_of_none hurl).mpr ⟨hlocation, hpool⟩⟩

private theorem IsServer.isComplete (hc : c.IsServer) : c.parts.IsComplete :=
  (isServer_iff.mp hc).2.2.1

private theorem IsServer.withParts (hc : c.IsServer) {p : Parts} (hp : p.IsComplete) :
    (c.withParts p).IsServer := by
  obtain ⟨hdialect, hurl, _, hpool⟩ := isServer_iff.mp hc
  exact isServer_iff.mpr ⟨hdialect, hurl, hp, hpool⟩

private theorem connectionString_eq (hc : c.IsServer) :
    c.connectionString = "postgresql://" ++ String.ofList c.parts.text := by
  rw [connectionString_of_postgres hc.url hc.dialect, ← String.toList_inj]
  simp [parts, Parts.text_eq, portMark]

private theorem connectionString_eq_iff (hc : c.IsServer) (hd : d.IsServer) :
    d.connectionString = c.connectionString ↔ d.parts.text = c.parts.text := by
  rw [connectionString_eq hc, connectionString_eq hd, String.append_right_inj, String.ofList_inj]

/-- A configuration is the only one with its connection string, as far as the parts go, exactly if
no part holds a separator where the string could be cut instead. Where each part ends at the first
of its separators, configurations with the same string have the same parts. -/
theorem connection_strings_determine_parts_but_for_separators (hc : c.IsServer) :
    ((∀ d : DatabaseConfig, d.IsServer → d.connectionString = c.connectionString →
        d.parts = c.parts) ↔ c.parts.IsUnambiguous) ∧
    ∀ d : DatabaseConfig, d.IsServer → d.connectionString = c.connectionString →
      c.parts.IsSeparated → d.parts.IsSeparated → d.parts = c.parts := by
  refine ⟨⟨?_, ?_⟩, ?_⟩
  · intro h
    have hdetermined : c.parts.IsDetermined := by
      intro q hq htext
      have hserver := hc.withParts hq
      exact h (c.withParts q) hserver ((connectionString_eq_iff hc hserver).mpr htext)
    exact hdetermined.isUnambiguous hc.isComplete
  · intro h d hd hstring
    exact h.isDetermined d.parts hd.isComplete ((connectionString_eq_iff hc hd).mp hstring)
  · intro d hd hstring hseparated hother
    exact hseparated.eq_of_text hother ((connectionString_eq_iff hc hd).mp hstring)

/-- A host of colons and a database with a slash do no harm. -/
theorem connection_strings_determine_parts_but_for_separators_of_loopback :
    let c : DatabaseConfig :=
      { dialect := .postgres, host := "::1", port := 5432, database := "music/2024",
        username := "app", password := "p/s" }
    let d : DatabaseConfig := { c with maxConnections := 20 }
    c.IsServer ∧ d.IsServer ∧ d.connectionString = c.connectionString ∧ c.parts.IsSeparated ∧
      d.parts.IsSeparated ∧ d.parts = c.parts ∧
      ∀ other : DatabaseConfig, other.IsServer → other.connectionString = c.connectionString →
        other.parts = c.parts := by
  intro c d
  have hc : c.IsServer := ⟨rfl, rfl, rfl⟩
  have hd : d.IsServer := ⟨rfl, rfl, rfl⟩
  have hstring : d.connectionString = c.connectionString := rfl
  have hseparated : c.parts.IsSeparated := ⟨by decide, by decide, by decide⟩
  have hunambiguous : c.parts.IsUnambiguous :=
    .of_notMem (by decide) (by decide) (by decide) (by decide) (by decide) (by decide)
  obtain ⟨hdetermined, hamong⟩ := connection_strings_determine_parts_but_for_separators hc
  exact ⟨hc, hd, hstring, hseparated, hseparated, hamong d hd hstring hseparated hseparated,
    hdetermined.mpr hunambiguous⟩

/-- A password with an at sign joins to the URL of another host. -/
theorem password_leads_to_other_host :
    let c : DatabaseConfig :=
      { dialect := .postgres, host := "db", port := 5432, database := "music",
        username := "app", password := "x@evil:5432/y" }
    let d : DatabaseConfig :=
      { dialect := .postgres, host := "evil", port := 5432, database := "y@db:5432/music",
        username := "app", password := "x" }
    c.IsServer ∧ d.IsServer ∧ d.connectionString = c.connectionString ∧
      d.password ≠ c.password ∧ d.host ≠ c.host ∧ d.database ≠ c.database := by
  intro c d
  have hc : c.IsServer := ⟨rfl, rfl, rfl⟩
  have hd : d.IsServer := ⟨rfl, rfl, rfl⟩
  have htext : d.parts.text = c.parts.text := by decide
  exact ⟨hc, hd, (connectionString_eq_iff hc hd).mpr htext, by decide, by decide, by decide⟩

end DatabaseConfig

end RecordTables
