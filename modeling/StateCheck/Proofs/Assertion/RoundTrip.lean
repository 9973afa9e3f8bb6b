import StateCheck.Proofs.Assertion.Reading
import StateCheck.Yaml.Load

/-!
Assertion files that are written and read again.
-/

namespace StateCheck

open Yaml.Value

/-! ### Members -/

namespace Yaml.Value

variable {name key text : String} {ms ms' : List (Value × Value)} {v : Value}

theorem lookup_cons_string :
    lookup name ((.string key, v) :: ms) = if key = name then some v else lookup name ms := rfl

theorem lookup_append : lookup name (ms ++ ms') = (lookup name ms).or (lookup name ms') := by
  induction ms with
  | nil => rfl
  | cons m ms ih =>
    obtain ⟨k, v⟩ := m
    cases k with
    | string key =>
      rw [List.cons_append, lookup_cons_string, lookup_cons_string]
      split
      · rfl
      · exact ih
    | _ => exact ih

theorem lookup_textMember : lookup name (AssertionFile.textMember key text) =
    if key = name ∧ text ≠ "" then some (.string text) else none := by
  unfold AssertionFile.textMember
  by_cases htext : text = ""
  · simp [htext, lookup]
  · simp [htext, lookup]

end Yaml.Value

theorem labelText_none : labelText none = .ok "" := rfl

theorem labelText_string (text : String) : labelText (some (.string text)) = .ok text := by
  simp [labelText, written, isWritable, Yaml.Value.text]

/-! ### Assertions -/

namespace AssertionFile

variable {short : Bool} {a : Assertion}

def writtenPath (short : Bool) (a : Assertion) : String :=
  if short then Path.compact a.path else a.path

theorem get?_assertionDocument (short : Bool) (a : Assertion) (name : String) :
    (assertionDocument short a).get? name =
      ((if "name" = name ∧ a.name ≠ "" then some (.string a.name) else none).or <|
        (if "description" = name ∧ a.description ≠ "" then some (.string a.description)
          else none).or <|
        (if "path" = name then some (.string (writtenPath short a)) else none).or <|
        a.predicate.bind fun p =>
          if p.kind.key = name then some (operandValue p.operand) else none) := by
  by_cases hpath : "path" = name <;> cases hp : a.predicate <;>
    simp [assertionDocument, get?, lookup_append, lookup_textMember, lookup, hp, writtenPath,
      hpath]

theorem given?_assertionDocument (short : Bool) (a : Assertion) (kind : Predicate.Kind) :
    (assertionDocument short a).given? kind.key =
      a.predicate.bind fun p => if p.kind = kind then some (operandValue p.operand) else none := by
  have hkey : "name" ≠ kind.key ∧ "description" ≠ kind.key ∧ "path" ≠ kind.key := by
    cases kind <;> decide
  unfold given?
  rw [get?_assertionDocument]
  cases a.predicate with
  | none => simp [hkey]
  | some p =>
    have hkind : p.kind.key = kind.key ↔ p.kind = kind := ⟨key_injective, congrArg _⟩
    by_cases h : p.kind = kind
    · cases ho : p.operand <;> simp [hkey, h, operandValue, ho]
    · simp [hkey, hkind, h]

theorem labelText_name (short : Bool) (a : Assertion) :
    labelText ((assertionDocument short a).get? "name") = .ok a.name := by
  have hkey (p : Predicate) : p.kind.key ≠ "name" := by cases p.kind <;> decide
  rw [get?_assertionDocument]
  by_cases hname : a.name = "" <;>
    simp [hkey, hname, labelText_none, labelText_string]

theorem labelText_description (short : Bool) (a : Assertion) :
    labelText ((assertionDocument short a).get? "description") = .ok a.description := by
  have hkey (p : Predicate) : p.kind.key ≠ "description" := by cases p.kind <;> decide
  rw [get?_assertionDocument]
  by_cases hdescription : a.description = "" <;>
    simp [hkey, hdescription, labelText_none, labelText_string]

theorem labelText_path (short : Bool) (a : Assertion) :
    labelText ((assertionDocument short a).get? "path") = .ok (writtenPath short a) := by
  rw [get?_assertionDocument]
  simp [labelText_string]

theorem declared_assertionDocument (short : Bool) (a : Assertion) :
    Predicate.declared (assertionDocument short a) = (a.predicate.map Predicate.kind).toList := by
  unfold Predicate.declared
  simp only [given?_assertionDocument]
  cases a.predicate with
  | none => simp
  | some p =>
    cases hk : p.kind <;> simp [hk, Predicate.Kind.all]

/-- The predicate of a well formed assertion is the one that its document gives. -/
theorem select_assertionDocument (short : Bool) (h : ∀ p, a.predicate = some p → p.WellFormed) :
    Predicate.select (assertionDocument short a) = .ok a.predicate := by
  unfold Predicate.select
  simp only [declared_assertionDocument, given?_assertionDocument]
  cases hp : a.predicate with
  | none => simp [Predicate.comparing]
  | some p =>
    have hwell := h p hp
    obtain ⟨kind, operand⟩ := p
    cases operand with
    | flag b =>
      have hf : kind.isFlag = true := hwell
      cases b <;> cases kind <;>
        simp_all [Predicate.comparing, Predicate.Kind.isFlag, operandValue, isOn, isTruthy]
    | text s =>
      obtain ⟨hf, -⟩ := hwell
      cases kind <;>
        simp_all [Predicate.comparing, Predicate.Kind.isFlag, operandValue, labelText_string,
          Except.map]

theorem badThreshold?_of_wellFormed {p : Option Predicate} (h : ∀ q, p = some q → q.WellFormed) :
    Predicate.badThreshold? p = none := by
  cases p with
  | none => rfl
  | some q =>
    obtain ⟨kind, operand⟩ := q
    cases operand with
    | flag b => rfl
    | text s =>
      obtain ⟨-, hn⟩ := h _ rfl
      by_cases hk : kind.isNumeric = true
      · simpa [Predicate.badThreshold?, hk, Option.isSome_iff_ne_none] using hn hk
      · simp [Predicate.badThreshold?, hk]

theorem writtenPath_ne_empty (h : Path.expand (writtenPath short a) = a.path) :
    writtenPath short a ≠ "" := by
  intro hempty
  have hroot : a.path = "/" := by
    rw [← h, hempty]
    decide +kernel
  unfold writtenPath at hempty
  rw [hroot] at hempty
  revert hempty
  cases short <;> decide +kernel

theorem readAssertion_assertionDocument (short : Bool) (h : a.WellFormed) (i : Nat)
    (host : String) (j : Nat) :
    (readAssertion i host j (assertionDocument short a)).outcome = .ok a ↔
      Path.expand (writtenPath short a) = a.path := by
  rw [readAssertion_eq_ok_iff, labelText_path, labelText_name, labelText_description,
    select_assertionDocument short h.predicate]
  constructor
  · rintro ⟨-, path, hpath, -, hexpand, -⟩
    cases hpath
    exact hexpand.symm
  · intro hexpand
    exact ⟨⟨_, rfl⟩, _, rfl, writtenPath_ne_empty hexpand, hexpand.symm, h.readable, rfl,
      badThreshold?_of_wellFormed h.predicate, rfl, rfl⟩

/-- A path is lost if it ends with a line break and has a short form. -/
theorem expand_writtenPath (h : a.path.toList.head? = some '/') :
    Path.expand (writtenPath short a) = a.path ↔
      (short = true → ¬(a.path.toList.getLast? = some '\n' ∧ Path.compact a.path ≠ a.path)) := by
  cases short with
  | false => simp [writtenPath, Path.expand_of_rooted h]
  | true => simpa [writtenPath] using Path.expand_compact_iff h

/-! ### Targets and files -/

variable {t : Target}

theorem get?_targetDocument (short : Bool) (t : Target) (name : String) :
    (targetDocument short t).get? name =
      ((if "host" = name then some (.string t.host) else none).or <|
        (if "username" = name ∧ t.credentials.username ≠ "" then
          some (.string t.credentials.username) else none).or <|
        (if "password" = name ∧ t.credentials.password ≠ "" then
          some (.string t.credentials.password) else none).or <|
        (if "insecure" = name ∧ t.credentials.insecure = true then some (.bool true)
          else none).or <|
        if "assertions" = name then some (.list (t.assertions.map (assertionDocument short)))
        else none) := by
  by_cases hhost : "host" = name <;> by_cases hinsecure : "insecure" = name <;>
    cases hi : t.credentials.insecure <;>
    simp [targetDocument, get?, lookup_append, lookup_textMember, lookup, hhost, hinsecure, hi]

theorem hostOf_targetDocument (short : Bool) (h : t.host ≠ "") :
    hostOf (targetDocument short t) = .ok t.host := by
  have htruthy : (targetDocument short t).truthy? "host" = some (.string t.host) := by
    rw [truthy?, get?_targetDocument]
    simp [Option.filter, isTruthy, h]
  unfold hostOf
  rw [htruthy]
  simp [written, isWritable, Yaml.Value.text]

theorem labelText_username (short : Bool) (t : Target) :
    labelText ((targetDocument short t).get? "username") = .ok t.credentials.username := by
  rw [get?_targetDocument]
  by_cases hu : t.credentials.username = "" <;> simp [hu, labelText_none, labelText_string]

theorem labelText_password (short : Bool) (t : Target) :
    labelText ((targetDocument short t).get? "password") = .ok t.credentials.password := by
  rw [get?_targetDocument]
  by_cases hp : t.credentials.password = "" <;> simp [hp, labelText_none, labelText_string]

theorem insecure_targetDocument (short : Bool) (t : Target) :
    t.credentials.insecure = ((targetDocument short t).truthy? "insecure").isSome := by
  rw [truthy?, get?_targetDocument]
  cases hi : t.credentials.insecure <;> simp [Option.filter, isTruthy]

theorem items?_of_get? {doc : Yaml.Value} {name : String} {items : List Yaml.Value}
    (h : doc.get? name = some (.list items)) : doc.items? name = some items := by
  unfold items? truthy?
  rw [h]
  cases items <;> simp [Option.filter, isTruthy]

theorem items?_assertions (short : Bool) (t : Target) :
    (targetDocument short t).items? "assertions" =
      some (t.assertions.map (assertionDocument short)) := by
  apply items?_of_get?
  rw [get?_targetDocument]
  simp

theorem readTarget_targetDocument (short : Bool) (h : t.WellFormed) (i : Nat) :
    (readTarget i (targetDocument short t)).outcome = .ok t ↔
      ∀ a ∈ t.assertions, Path.expand (writtenPath short a) = a.path := by
  have hitems := Noted.eachFrom_map_iff
    (fun a ha => readAssertion_assertionDocument short (h.assertions a ha) i t.host) 0
  rw [readTarget_eq_ok_iff, hostOf_targetDocument short h.host, labelText_username,
    labelText_password, items?_assertions, ← hitems]
  constructor
  · rintro ⟨-, -, -, -, -, -, items, he, hread⟩
    cases he
    exact hread
  · intro hread
    exact ⟨⟨_, rfl⟩, rfl, h.host, rfl, rfl, insecure_targetDocument short t, _, rfl, hread⟩

theorem ofDocument_toMembers {f : AssertionFile} (h : ∀ t ∈ f.targets, t.WellFormed) :
    (ofDocument (.mapping (f.toMembers short))).outcome = .ok f ↔
      ∀ t ∈ f.targets, ∀ a ∈ t.assertions, Path.expand (writtenPath short a) = a.path := by
  have htargets := Noted.eachFrom_map_iff
    (fun t ht => readTarget_targetDocument short (h t ht)) 0
  have hitems : (Yaml.Value.mapping (f.toMembers short)).items? "targets" =
      some (f.targets.map (targetDocument short)) := items?_of_get? rfl
  rw [ofDocument_eq_ok_iff rfl, hitems, ← htargets]
  constructor
  · rintro ⟨-, items, he, hread⟩
    cases he
    exact hread
  · intro hread
    exact ⟨⟨_, rfl⟩, _, rfl, hread⟩

/-- A file that was read once is read again from what is written of it, unless short paths are
written and one of its paths that have a short form ends with a line break. The text of the
written members is assumed to be read as these members. -/
theorem read_write_iff {yaml : Yaml.Reader} {text : List Char} {f : AssertionFile} (short : Bool)
    (h : (read yaml text).outcome = .ok f)
    (hyaml : yaml (f.write short).toList = .ok (.mapping (f.toMembers short))) :
    (read yaml (f.write short).toList).outcome = .ok f ↔
      (short = true → ∀ t ∈ f.targets, ∀ a ∈ t.assertions,
        ¬(a.path.toList.getLast? = some '\n' ∧ Path.compact a.path ≠ a.path)) := by
  have hwell := read_wellFormed h
  have hread : read yaml (f.write short).toList = ofDocument (.mapping (f.toMembers short)) := by
    rw [read, hyaml]
  rw [hread, ofDocument_toMembers hwell]
  constructor
  · intro hpaths hshort t ht a ha
    exact (expand_writtenPath ((hwell t ht).assertions a ha).rooted).1 (hpaths t ht a ha) hshort
  · intro hpaths t ht a ha
    exact (expand_writtenPath ((hwell t ht).assertions a ha).rooted).2 fun hshort =>
      hpaths hshort t ht a ha

/-- A file that asks whether one path exists on one device. -/
def sole (path : String) : AssertionFile :=
  ⟨[⟨"r", ⟨"", "", false⟩, [⟨path, some ⟨.present, .flag true⟩, "", ""⟩]⟩]⟩

/-- The texts of the document of such a file. -/
def sole? : Yaml.Value → Option (List String)
  | .mapping [(.string a, .list [.mapping [(.string b, .string host), (.string c, .list
      [.mapping [(.string d, .string path), (.string e, .bool true)]])]])] =>
    some [a, b, host, c, d, path, e]
  | _ => none

theorem eq_of_sole? {doc : Yaml.Value} {path : String}
    (h : sole? doc = some ["targets", "host", "r", "assertions", "path", path, "exists"]) :
    doc = .mapping [(.string "targets", .list [.mapping [(.string "host", .string "r"),
      (.string "assertions", .list
        [.mapping [(.string "path", .string path), (.string "exists", .bool true)]])]])] := by
  unfold sole? at h
  split at h
  · simp only [Option.some.injEq, List.cons.injEq, and_true] at h
    obtain ⟨rfl, rfl, rfl, rfl, rfl, rfl, rfl⟩ := h
    rfl
  · cases h

theorem toMembers_sole {path written : String} (h : Path.compact path = written) :
    (sole path).toMembers true = [(.string "targets", .list [.mapping
      [(.string "host", .string "r"), (.string "assertions", .list
        [.mapping [(.string "path", .string written), (.string "exists", .bool true)]])]])] := by
  subst h
  rfl

theorem load_sole {path : String} (h : Path.compact path = "lldp/x") :
    Yaml.load ((sole path).write true).toList = .ok (.mapping ((sole path).toMembers true)) := by
  have hread : (Yaml.load ((sole "/lldp/x").write true).toList).toOption.bind sole? =
      some ["targets", "host", "r", "assertions", "path", "lldp/x", "exists"] := by decide +kernel
  have hmembers := toMembers_sole (by decide +kernel : Path.compact "/lldp/x" = "lldp/x")
  have hsame : (sole path).toMembers true = (sole "/lldp/x").toMembers true := by
    rw [toMembers_sole h, hmembers]
  obtain ⟨doc, hload, hdoc⟩ := Option.bind_eq_some_iff.1 hread
  rw [write, hsame, hmembers, ← eq_of_sole? hdoc, ← toOption_eq_some_iff]
  exact hload

theorem read_write_sole :
    (read Yaml.load ((sole "/lldp/x").write true).toList).outcome = .ok (sole "/lldp/x") := by
  have hread : (read Yaml.load
      "targets: [{host: r, assertions: [{path: lldp/x, exists: true}]}]".toList).outcome =
        .ok (sole "/lldp/x") := toOption_eq_some_iff.1 (by decide +kernel)
  exact (read_write_iff true hread (load_sole (by decide +kernel))).2 fun _ => by decide

/-- The line break at the end of a path that has a short form is lost. -/
theorem read_write_line_break :
    (read Yaml.load ("targets:\n- host: r\n  assertions:\n  - path: \"/lldp/x\\n\"\n" ++
      "    exists: true\n").toList).outcome = .ok (sole "/lldp/x\n") ∧
    Yaml.load ((sole "/lldp/x\n").write true).toList =
      .ok (.mapping ((sole "/lldp/x\n").toMembers true)) ∧
    (read Yaml.load ((sole "/lldp/x\n").write true).toList).outcome = .ok (sole "/lldp/x") ∧
    sole "/lldp/x" ≠ sole "/lldp/x\n" := by
  have hload := load_sole (by decide +kernel : Path.compact "/lldp/x\n" = "lldp/x")
  refine ⟨toOption_eq_some_iff.1 (by decide +kernel), hload, ?_, by decide⟩
  rw [read, hload]
  exact toOption_eq_some_iff.1 (by decide +kernel)

end AssertionFile

end StateCheck
