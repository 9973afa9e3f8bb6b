import Mathlib.Data.List.Forall2
import StateCheck.Assertion.Document
import StateCheck.Assertion.Evaluation
import StateCheck.Proofs.Noted

/-!
The predicate that a document of an assertion gives, against an evaluation that looks at the
document itself.
-/

namespace StateCheck

/-- What is left of a result: its verdict and the text of its error. -/
structure Finding where
  verdict : Verdict
  error : Option String

namespace Finding

def ofResult (r : Result) : Finding := ⟨r.verdict, r.error.map Fault.text⟩

def judged (passed : Bool) : Finding := ⟨if passed then .pass else .fail, none⟩

def refused (message : String) : Finding := ⟨.error, some message⟩

end Finding

namespace Yaml.Value

open StateCheck (Finding)

/-! ### Evaluation by the document -/

/-- Whether the member is given and switches something on. -/
def switches (doc : Value) (key : String) : Bool := (doc.given? key).any isOn

def gives (doc : Value) (key : String) : Bool := (doc.given? key).isSome

def occurrence (value pattern : String) : Except Breakdown Finding :=
  match Pattern.read pattern.toList with
  | .ok node => .ok (.judged (node.occursIn value.toList))
  | .error .invalid => .ok (.refused ("invalid regex: <regex error> (pattern=" ++ pattern ++ ")"))
  | .error .conflictingFlags => .error .unreadable
  | .error .tooLarge => .error .overflow

def comparison (holds : Binary64 → Binary64 → Bool) (value threshold : String) :
    Except Breakdown Finding :=
  match Numeral.readFloat? value.toList, Numeral.readFloat? threshold.toList with
  | none, _ => .ok (.refused ("value is not numeric (value=" ++ value ++ ")"))
  | some _, none =>
    .ok (.refused ("threshold is not numeric (threshold=" ++ threshold ++ ")"))
  | some x, some t => .ok (.judged (holds x t))

/-- The keys that ask about the value of an existing path, in the order in which they are
consulted, with the answer for a value and the text of the member. -/
def questions : List (String × (String → String → Except Breakdown Finding)) := [
  ("equals", fun value text => .ok (.judged (value == text))),
  ("contains", fun value text => .ok (.judged (Text.occursIn text.toList value.toList))),
  ("matches", occurrence),
  ("gt", comparison fun x t => t.lt x),
  ("lt", comparison fun x t => x.lt t),
  ("gte", comparison fun x t => t.le x),
  ("lte", comparison fun x t => x.le t)]

def question? (doc : Value) : Option (String × (String → String → Except Breakdown Finding)) :=
  questions.find? fun q => doc.gives q.1

/-- The key that an evaluation by the document consults first. -/
def consulted? (doc : Value) : Option String :=
  if doc.switches "exists" then some "exists"
  else if doc.switches "absent" then some "absent"
  else doc.question?.map Prod.fst

/-- The evaluation of an assertion by all the members of its document. -/
def consult (doc : Value) (value : String) (found : Bool) : Except Breakdown Finding :=
  if doc.switches "exists" then .ok (.judged found)
  else if doc.switches "absent" then .ok (.judged (!found))
  else if !found then .ok (.refused "path does not exist")
  else
    match doc.question? with
    | some (key, answer) => (labelText (doc.given? key)).bind (answer value)
    | none => .ok (.refused "no assertion type specified")

/-- The text of a threshold is no number. -/
def IsRejected (doc : Value) : Prop :=
  ∃ key ∈ ["gt", "lt", "gte", "lte"], doc.consulted? = some key ∧
    ∃ text, labelText (doc.given? key) = .ok text ∧ Numeral.readFloat? text.toList = none

/-- The text to compare with has a whole number with too many digits in it. -/
def IsUnwritable (doc : Value) : Prop :=
  ∃ key ∈ questions.map Prod.fst, doc.consulted? = some key ∧
    labelText (doc.given? key) = .error .unreadable

end Yaml.Value

/-! ### Texts of failures -/

theorem Failure.text_of_nil (kind : FailureKind) (message : String) :
    (Failure.of kind message []).text = message := by
  simp [Failure.text, Failure.of, Text.joinWith]

theorem Failure.text_of_singleton (kind : FailureKind) (message key s : String) :
    (Failure.of kind message [(key, s)]).text = message ++ " (" ++ key ++ "=" ++ s ++ ")" := by
  simp [Failure.text, Failure.of, Text.joinWith, ← String.toList_inj]

namespace Finding

theorem ofResult_refused (a : Assertion) (value message : String) :
    ofResult (a.refused value message []) = refused message := by
  simp [ofResult, Assertion.refused, refused, Result.verdict, Fault.ofFailure, Fault.text,
    Failure.text_of_nil]

theorem ofResult_refused_singleton (a : Assertion) (value message key s : String) :
    ofResult (a.refused value message [(key, s)]) =
      refused (message ++ " (" ++ key ++ "=" ++ s ++ ")") := by
  simp [ofResult, Assertion.refused, refused, Result.verdict, Fault.ofFailure, Fault.text,
    Failure.text_of_singleton]

end Finding

namespace Assertion

open Yaml.Value

variable (a : Assertion) (value : String)

theorem search_finding (pattern : String) :
    (a.search pattern value).map Finding.ofResult = occurrence value pattern := by
  unfold search occurrence
  cases Pattern.read pattern.toList with
  | ok node => rfl
  | error e =>
    cases e with
    | invalid =>
      simp [Except.map, Finding.ofResult_refused_singleton]
    | conflictingFlags => rfl
    | tooLarge => rfl

theorem weigh_finding (kind : Predicate.Kind) (threshold : String) :
    .ok (Finding.ofResult (a.weigh kind threshold value)) =
      comparison (compare kind) value threshold := by
  unfold weigh comparison
  cases Numeral.readFloat? value.toList with
  | none => simp [Finding.ofResult_refused_singleton]
  | some x =>
    cases Numeral.readFloat? threshold.toList with
    | none => simp [Finding.ofResult_refused_singleton]
    | some t => rfl

theorem apply_numeric_finding (kind : Predicate.Kind) (hk : kind.isNumeric = true)
    (text : String) : (a.apply ⟨kind, .text text⟩ value).map Finding.ofResult =
      comparison (compare kind) value text := by
  have happly : a.apply ⟨kind, .text text⟩ value = .ok (a.weigh kind text value) := by
    cases kind <;> simp_all [Predicate.Kind.isNumeric, apply, Predicate.Operand.toText]
  rw [happly]
  exact a.weigh_finding value kind text

/-- Each kind that compares is asked under its key. -/
theorem apply_finding : List.Forall₂ (fun (kind : Predicate.Kind) q => kind.key = q.1 ∧
    ∀ (a : Assertion) value text,
      (a.apply ⟨kind, .text text⟩ value).map Finding.ofResult = q.2 value text)
    Predicate.comparing questions := by
  simp only [Predicate.comparing, questions, List.forall₂_cons, List.Forall₂.nil, and_true]
  refine ⟨⟨rfl, fun _ _ _ => rfl⟩, ⟨rfl, fun _ _ _ => rfl⟩, ⟨rfl, search_finding⟩, ?_⟩
  refine ⟨⟨rfl, fun a value => a.apply_numeric_finding value .above rfl⟩, ?_⟩
  refine ⟨⟨rfl, fun a value => a.apply_numeric_finding value .below rfl⟩, ?_⟩
  refine ⟨⟨rfl, fun a value => a.apply_numeric_finding value .atLeast rfl⟩, ?_⟩
  exact ⟨rfl, fun a value => a.apply_numeric_finding value .atMost rfl⟩

variable {a} {p : Predicate}

theorem evaluate_of_comparing (h : a.predicate = some p) (hf : p.kind.isFlag = false)
    (value : String) (found : Bool) : a.evaluate value found =
      if found then a.apply p value else .ok (a.refused value "path does not exist" []) := by
  obtain ⟨kind, operand⟩ := p
  cases kind <;>
    simp_all [evaluate, active?, Predicate.isActive, Predicate.Kind.isFlag, Option.filter]

theorem evaluate_of_inactive (h : a.predicate.filter Predicate.isActive = none) (value : String)
    (found : Bool) : a.evaluate value found = .ok (a.refused value
      (if found then "no assertion type specified" else "path does not exist") []) := by
  unfold evaluate active?
  rw [h]
  cases found <;> rfl

end Assertion

namespace Predicate

open Yaml.Value

variable (doc : Yaml.Value)

theorem mem_declared {kind : Kind} : kind ∈ declared doc ↔ doc.gives kind.key = true := by
  have hall : kind ∈ Kind.all := by cases kind <;> decide
  simp [declared, gives, hall]

theorem find?_flag : (declared doc).find? (fun k => k.isFlag && (doc.given? k.key).any isOn) =
    if doc.switches "exists" then some .present
    else if doc.switches "absent" then some .absent else none := by
  have hgiven (key : String) (h : doc.switches key = true) : (doc.given? key).isSome = true := by
    unfold switches at h
    cases hk : doc.given? key with
    | none => simp [hk] at h
    | some v => rfl
  rw [declared, List.find?_filter]
  by_cases hp : doc.switches "exists" = true
  · have := hgiven _ hp
    simp_all [Kind.all, Kind.isFlag, Kind.key, switches]
  · by_cases ha : doc.switches "absent" = true
    · have := hgiven _ ha
      simp_all [Kind.all, Kind.isFlag, Kind.key, switches]
    · simp_all [Kind.all, Kind.isFlag, Kind.key, switches]

theorem select_eq : select doc =
    if doc.switches "exists" then .ok (some ⟨.present, .flag true⟩)
    else if doc.switches "absent" then .ok (some ⟨.absent, .flag true⟩)
    else
      match comparing.find? fun kind => doc.gives kind.key with
      | some kind => (labelText (doc.given? kind.key)).map fun s => some ⟨kind, .text s⟩
      | none => .ok ((declared doc).head?.map fun kind => ⟨kind, .flag false⟩) := by
  have hcontains : (declared doc).contains = fun kind : Kind => doc.gives kind.key := by
    funext kind
    rw [Bool.eq_iff_iff, List.contains_iff_mem, mem_declared]
  unfold select
  dsimp only
  rw [find?_flag, hcontains]
  by_cases hp : doc.switches "exists" = true
  · simp only [hp, if_true]
  · by_cases ha : doc.switches "absent" = true
    · simp only [hp, ha, if_true]
      rfl
    · simp only [hp, ha]
      rfl

theorem readPredicate_outcome (place host : String) :
    (AssertionFile.readPredicate place host doc).outcome =
      ((select doc).mapError Fault.breakdown).bind fun selected =>
        match badThreshold? selected with
        | some (kind, text) => .error (.failure ((Failure.of .assertionFile
            (place ++ ": '" ++ kind.key ++ "' threshold is not numeric")
            [("threshold", text)]).on host) none)
        | none => .ok selected := by
  unfold AssertionFile.readPredicate
  dsimp only
  split
  · rw [Noted.outcome_note_bind, Noted.outcome_bind, Noted.outcome_orBreakOff]
    congr 1
    funext selected
    cases badThreshold? selected <;> rfl
  · rw [Noted.outcome_bind, Noted.outcome_orBreakOff]
    congr 1
    funext selected
    cases badThreshold? selected <;> rfl

end Predicate

namespace Yaml.Value

open Predicate (Kind)

variable {doc : Yaml.Value} {kind : Kind}

theorem find?_rel {α β : Type} {R : α → β → Prop} {as : List α} {bs : List β} {p : α → Bool}
    {q : β → Bool} (h : List.Forall₂ R as bs) (hpq : ∀ a b, R a b → p a = q b) :
    Option.Rel R (as.find? p) (bs.find? q) := by
  induction h with
  | nil => exact .none
  | @cons a b as bs hab h ih =>
    rw [List.find?_cons, List.find?_cons, ← hpq a b hab]
    cases p a with
    | true => exact .some hab
    | false => exact ih

theorem question?_rel (doc : Yaml.Value) : Option.Rel (fun (kind : Kind) q => kind.key = q.1 ∧
    ∀ (a : Assertion) value text,
      (a.apply ⟨kind, .text text⟩ value).map Finding.ofResult = q.2 value text)
    (Predicate.comparing.find? fun kind => doc.gives kind.key) doc.question? :=
  find?_rel Assertion.apply_finding fun _ _ h => by rw [h.1]

theorem key_injective {kind kind' : Kind} (h : kind.key = kind'.key) : kind = kind' := by
  cases kind <;> cases kind' <;> first | rfl | (exact absurd h (by decide))

theorem labelText_eq_error {v : Option Value} {e : Breakdown} (h : labelText v = .error e) :
    e = .unreadable := by
  unfold labelText at h
  split at h
  · cases h
  · cases h
  · cases h
  · unfold written at h
    split at h
    · cases h
    · cases h
      rfl

theorem isRejected_iff (h : doc.consulted? = some kind.key) : doc.IsRejected ↔
    kind.isNumeric = true ∧ ∃ text, labelText (doc.given? kind.key) = .ok text ∧
      Numeral.readFloat? text.toList = none := by
  have hkey : kind.key ∈ ["gt", "lt", "gte", "lte"] ↔ kind.isNumeric = true := by
    cases kind <;> decide
  unfold IsRejected
  rw [h, ← hkey]
  constructor
  · rintro ⟨_, hk, he, ht⟩
    cases he
    exact ⟨hk, ht⟩
  · rintro ⟨hk, ht⟩
    exact ⟨_, hk, rfl, ht⟩

theorem isUnwritable_iff (h : doc.consulted? = some kind.key) : doc.IsUnwritable ↔
    kind.isFlag = false ∧ labelText (doc.given? kind.key) = .error .unreadable := by
  have hkey : kind.key ∈ questions.map Prod.fst ↔ kind.isFlag = false := by
    cases kind <;> decide
  unfold IsUnwritable
  rw [h, ← hkey]
  constructor
  · rintro ⟨_, hk, he, ht⟩
    cases he
    exact ⟨hk, ht⟩
  · rintro ⟨hk, ht⟩
    exact ⟨_, hk, rfl, ht⟩

theorem isFlag_iff : kind.isFlag = false ↔ kind ∈ Predicate.comparing := by
  cases kind <;> decide

theorem isFlag_of_mem_declared
    (hk : Predicate.comparing.find? (fun kind => doc.gives kind.key) = none)
    (h : kind ∈ Predicate.declared doc) : kind.isFlag = true := by
  by_contra hf
  have hmem := isFlag_iff.1 (Bool.not_eq_true _ ▸ hf)
  exact List.find?_eq_none.1 hk kind hmem ((Predicate.mem_declared doc).1 h)

/-- A flag that is left over is switched off. -/
theorem filter_head (hk : Predicate.comparing.find? (fun kind => doc.gives kind.key) = none) :
    ((Predicate.declared doc).head?.map fun kind => ⟨kind, .flag false⟩).filter
      Predicate.isActive = none := by
  cases hh : (Predicate.declared doc).head? with
  | none => rfl
  | some kind =>
    have hf := isFlag_of_mem_declared hk (List.mem_of_mem_head? hh)
    simp [Predicate.isActive, hf, Predicate.Operand.isOn]

/-- The predicate of an assertion with the document `doc` judges as the document does. -/
def Agrees (doc : Yaml.Value) (p : Option Predicate) : Prop :=
  ∀ a : Assertion, a.predicate = p → ∀ value found,
    (a.evaluate value found).map Finding.ofResult = doc.consult value found

theorem agrees_present (h : doc.switches "exists" = true) :
    doc.Agrees (some ⟨.present, .flag true⟩) := by
  intro a ha value found
  simp only [Assertion.evaluate, Assertion.active?, ha, consult, h, if_true]
  rfl

theorem agrees_absent (hp : doc.switches "exists" = false) (h : doc.switches "absent" = true) :
    doc.Agrees (some ⟨.absent, .flag true⟩) := by
  intro a ha value found
  simp only [Assertion.evaluate, Assertion.active?, ha, consult, hp, h, if_true]
  rfl

theorem agrees_of_comparing {text : String} (hp : doc.switches "exists" = false)
    (ha : doc.switches "absent" = false)
    (hk : Predicate.comparing.find? (fun kind => doc.gives kind.key) = some kind)
    (ht : labelText (doc.given? kind.key) = .ok text) :
    doc.Agrees (some ⟨kind, .text text⟩) := by
  have hrel := question?_rel doc
  rw [hk] at hrel
  cases hq : doc.question? with
  | none =>
    rw [hq] at hrel
    cases hrel
  | some q =>
    rw [hq] at hrel
    cases hrel with
    | some hq' =>
    obtain ⟨hkey, hanswer⟩ := hq'
    intro a hpred value found
    have hf : kind.isFlag = false := isFlag_iff.2 (List.mem_of_find?_eq_some hk)
    rw [Assertion.evaluate_of_comparing hpred hf, consult, hp, ha, hq]
    cases found with
    | false => simp [Except.map, Finding.ofResult_refused]
    | true => simp [hanswer, ← hkey, ht, Except.bind]

theorem agrees_of_inactive {p : Option Predicate} (hp : doc.switches "exists" = false)
    (ha : doc.switches "absent" = false)
    (hk : Predicate.comparing.find? (fun kind => doc.gives kind.key) = none)
    (hpred : p.filter Predicate.isActive = none) : doc.Agrees p := by
  have hrel := question?_rel doc
  rw [hk] at hrel
  have hq : doc.question? = none := by
    cases hq : doc.question? with
    | none => rfl
    | some q =>
      rw [hq] at hrel
      cases hrel
  rintro a rfl value found
  rw [Assertion.evaluate_of_inactive hpred, consult, hp, ha, hq]
  cases found <;> simp [Except.map, Finding.ofResult_refused]

theorem consulted?_of_find? (hp : doc.switches "exists" = false)
    (ha : doc.switches "absent" = false) :
    doc.consulted? =
      (Predicate.comparing.find? fun kind => doc.gives kind.key).map Kind.key := by
  have hrel := question?_rel doc
  rw [consulted?, hp, ha]
  cases hk : Predicate.comparing.find? fun kind => doc.gives kind.key <;>
    cases hq : doc.question? <;> rw [hk, hq] at hrel <;> cases hrel
  · rfl
  · next h => simp [h.1]

theorem not_isRejected (h : doc.consulted? = some kind.key) (hk : kind.isNumeric = false) :
    ¬doc.IsRejected := by
  rw [isRejected_iff h, hk]
  simp

theorem not_isUnwritable (h : doc.consulted? = some kind.key) (hk : kind.isFlag = true) :
    ¬doc.IsUnwritable := by
  rw [isUnwritable_iff h, hk]
  simp

end Yaml.Value

namespace AssertionFile

open Yaml.Value Predicate

variable (place host : String) (doc : Yaml.Value)

theorem readPredicate_cases :
    (∃ p, (readPredicate place host doc).outcome = .ok p ∧ doc.Agrees p ∧
      ¬doc.IsRejected ∧ ¬doc.IsUnwritable) ∨
    (∃ f, (readPredicate place host doc).outcome = .error (.failure f none) ∧
      f.kind = .assertionFile ∧ doc.IsRejected ∧ ¬doc.IsUnwritable) ∨
    ((readPredicate place host doc).outcome = .error (.breakdown .unreadable) ∧
      doc.IsUnwritable ∧ ¬doc.IsRejected) := by
  have hout := readPredicate_outcome doc place host
  rw [select_eq] at hout
  by_cases hp : doc.switches "exists" = true
  · have hc : doc.consulted? = some Kind.present.key := by simp [consulted?, hp, Kind.key]
    rw [if_pos hp] at hout
    exact .inl ⟨_, hout, agrees_present hp, not_isRejected hc rfl, not_isUnwritable hc rfl⟩
  rw [if_neg hp] at hout
  have hp := Bool.not_eq_true _ ▸ hp
  by_cases ha : doc.switches "absent" = true
  · have hc : doc.consulted? = some Kind.absent.key := by simp [consulted?, hp, ha, Kind.key]
    rw [if_pos ha] at hout
    exact .inl ⟨_, hout, agrees_absent hp ha, not_isRejected hc rfl, not_isUnwritable hc rfl⟩
  rw [if_neg ha] at hout
  have ha := Bool.not_eq_true _ ▸ ha
  have hc := consulted?_of_find? hp ha
  cases hk : comparing.find? fun kind => doc.gives kind.key with
  | none =>
    have hinactive := filter_head hk
    rw [hk] at hout hc
    have hbad : badThreshold? ((declared doc).head?.map fun kind => ⟨kind, .flag false⟩) =
        none := by
      cases (declared doc).head? <;> rfl
    refine .inl ⟨_, ?_, agrees_of_inactive hp ha hk hinactive, ?_, ?_⟩
    · simpa only [mapError_ok, Except.bind, hbad] using hout
    · simp [IsRejected, hc]
    · simp [IsUnwritable, hc]
  | some kind =>
    have hf := isFlag_iff.2 (List.mem_of_find?_eq_some hk)
    rw [hk] at hout hc
    cases ht : labelText (doc.given? kind.key) with
    | error e =>
      cases labelText_eq_error ht
      simp only [ht, Except.map, mapError_error, Except.bind] at hout
      refine .inr (.inr ⟨hout, (isUnwritable_iff hc).2 ⟨hf, ht⟩, ?_⟩)
      simp [isRejected_iff hc, ht]
    | ok text =>
      have hw : ¬doc.IsUnwritable := by simp [isUnwritable_iff hc, ht]
      have hr : doc.IsRejected ↔
          (kind.isNumeric && (Numeral.readFloat? text.toList).isNone) = true := by
        simp [isRejected_iff hc, ht]
      simp only [ht, Except.map, mapError_ok, Except.bind, badThreshold?] at hout
      by_cases hbad : (kind.isNumeric && (Numeral.readFloat? text.toList).isNone) = true
      · rw [if_pos hbad] at hout
        exact .inr (.inl ⟨_, hout, rfl, hr.2 hbad, hw⟩)
      · rw [if_neg hbad] at hout
        exact .inl ⟨_, hout, agrees_of_comparing hp ha hk ht, fun h => hbad (hr.1 h), hw⟩

/-- The one predicate that is read judges as the whole document does. None is read if the first
member to be consulted is a threshold that is no number, or has no text. -/
theorem readPredicate_agrees (place host : String) (doc : Yaml.Value) :
    ((∃ f cause, (readPredicate place host doc).outcome = .error (.failure f cause) ∧
      f.kind = .assertionFile) ↔ doc.IsRejected) ∧
    ((readPredicate place host doc).outcome = .error (.breakdown .unreadable) ↔
      doc.IsUnwritable) ∧
    (¬doc.IsRejected → ¬doc.IsUnwritable →
      ∃ p, (readPredicate place host doc).outcome = .ok p ∧ doc.Agrees p) := by
  obtain ⟨p, hout, hp, hr, hw⟩ | ⟨f, hout, hf, hr, hw⟩ | ⟨hout, hw, hr⟩ :=
    readPredicate_cases place host doc
  · simp [hout, hr, hw, hp]
  · simp [hout, hr, hw, hf]
  · simp [hout, hr, hw]

/-- A whole number of too many digits has no text, whatever it is to be compared with. -/
theorem readPredicate_of_long_number :
    let doc : Yaml.Value := .mapping [(.string "equals", .int (Int.ofNat (twoTo 16000 - 1)))]
    ¬doc.IsRejected ∧ ¬∃ p, (readPredicate "" "" doc).outcome = .ok p := by
  intro doc
  have hlong : Yaml.Value.isWritable (.int (Int.ofNat (twoTo 16000 - 1))) = false := by
    decide +kernel
  have hw : doc.IsUnwritable := by
    refine ⟨"equals", by decide, rfl, ?_⟩
    change written (.int (Int.ofNat (twoTo 16000 - 1))) = _
    rw [written, hlong]
    rfl
  obtain ⟨p, -, -, -, hno⟩ | ⟨f, -, -, -, hno⟩ | ⟨hout, -, hr⟩ := readPredicate_cases "" "" doc
  · exact absurd hw hno
  · exact absurd hw hno
  · exact ⟨hr, by simp [hout]⟩

end AssertionFile

end StateCheck
