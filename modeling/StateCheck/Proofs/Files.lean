import StateCheck.Files

/-!
Files at paths: a path and its normal form lead to the same place, and a regular file has its text
there.
-/

namespace StateCheck

namespace Text

variable {p : Char → Bool} {c d : Char} {cs : List Char} {w : List Char} {ws : List (List Char)}

theorem splitWhere_of_mem (h : p c = true) (cs : List Char) :
    splitWhere p (c :: cs) = [] :: splitWhere p cs := if_pos h

theorem splitWhere_append (hw : ∀ c ∈ w, p c = false) (hd : p d = true) (cs : List Char) :
    splitWhere p (w ++ d :: cs) = w :: splitWhere p cs := by
  induction w with
  | nil => exact splitWhere_of_mem hd cs
  | cons c w ih =>
    obtain ⟨hc, hw⟩ := List.forall_mem_cons.1 hw
    rw [List.cons_append, splitWhere, ih hw, hc]
    rfl

theorem splitWhere_eq_self (hw : ∀ c ∈ w, p c = false) : splitWhere p w = [w] := by
  induction w with
  | nil => rfl
  | cons c w ih =>
    obtain ⟨hc, hw⟩ := List.forall_mem_cons.1 hw
    rw [splitWhere, ih hw, hc]
    rfl

/-- Pieces without the separator are found again between separators. -/
theorem splitWhere_intersperse (hws : ∀ w ∈ ws, ∀ c ∈ w, p c = false) (hd : p d = true)
    (hne : ws ≠ []) : splitWhere p (List.intersperse [d] ws).flatten = ws := by
  induction ws with
  | nil => exact absurd rfl hne
  | cons w ws ih =>
    obtain ⟨hw, hws⟩ := List.forall_mem_cons.1 hws
    cases ws with
    | nil => simpa using splitWhere_eq_self hw
    | cons v ws =>
      rw [List.intersperse_cons_cons, List.flatten_cons, List.flatten_cons, List.singleton_append,
        splitWhere_append hw hd, ih hws (List.cons_ne_nil v ws)]

theorem mem_of_mem_splitWhere (hw : w ∈ splitWhere p cs) (hc : c ∈ w) : c ∈ cs ∧ p c = false := by
  induction cs generalizing w with
  | nil =>
    rw [splitWhere, List.mem_singleton] at hw
    subst hw
    cases hc
  | cons b cs ih =>
    cases hb : p b with
    | true =>
      rw [splitWhere_of_mem hb] at hw
      rcases List.mem_cons.1 hw with rfl | hw
      · cases hc
      · obtain ⟨hmem, hpc⟩ := ih hw hc
        exact ⟨List.mem_cons_of_mem b hmem, hpc⟩
    | false =>
      rw [splitWhere, if_neg (by simp [hb])] at hw
      split at hw
      · rw [List.mem_singleton.1 hw, List.mem_singleton] at hc
        subst hc
        exact ⟨List.mem_cons_self, hb⟩
      · next v vs heq =>
        rw [heq] at ih
        rcases List.mem_cons.1 hw with rfl | hw
        · rcases List.mem_cons.1 hc with rfl | hc
          · exact ⟨List.mem_cons_self, hb⟩
          · obtain ⟨hmem, hpc⟩ := ih List.mem_cons_self hc
            exact ⟨List.mem_cons_of_mem b hmem, hpc⟩
        · obtain ⟨hmem, hpc⟩ := ih (List.mem_cons_of_mem v hw) hc
          exact ⟨List.mem_cons_of_mem b hmem, hpc⟩

theorem exists_mem_splitWhere (hc : c ∈ cs) (hp : p c = false) :
    ∃ w ∈ splitWhere p cs, c ∈ w := by
  induction cs with
  | nil => cases hc
  | cons b cs ih =>
    rcases List.mem_cons.1 hc with rfl | hc
    · rw [splitWhere, if_neg (by simp [hp])]
      split
      · exact ⟨[c], List.mem_cons_self, List.mem_cons_self⟩
      · exact ⟨_, List.mem_cons_self, List.mem_cons_self⟩
    · obtain ⟨w, hw, hcw⟩ := ih hc
      cases hb : p b with
      | true =>
        rw [splitWhere_of_mem hb]
        exact ⟨w, List.mem_cons_of_mem [] hw, hcw⟩
      | false =>
        rw [splitWhere, if_neg (by simp [hb])]
        split
        · next hnil =>
          rw [hnil] at hw
          cases hw
        · next v vs heq =>
          rw [heq] at hw
          rcases List.mem_cons.1 hw with rfl | hw
          · exact ⟨_, List.mem_cons_self, List.mem_cons_of_mem b hcw⟩
          · exact ⟨w, List.mem_cons_of_mem _ hw, hcw⟩

theorem toList_joinWith (sep : String) (parts : List String) :
    (joinWith sep parts).toList = (List.intersperse sep.toList (parts.map String.toList)).flatten :=
  String.toList_ofList

theorem mem_joinWith {sep : String} {parts : List String} (hc : c ∈ (joinWith sep parts).toList) :
    c ∈ sep.toList ∨ ∃ s ∈ parts, c ∈ s.toList := by
  rw [toList_joinWith] at hc
  induction parts with
  | nil => cases hc
  | cons s parts ih =>
    cases parts with
    | nil => exact .inr ⟨s, List.mem_cons_self, by simpa using hc⟩
    | cons t parts =>
      rw [List.map_cons, List.map_cons, List.intersperse_cons_cons, List.flatten_cons,
        List.flatten_cons, List.mem_append, List.mem_append] at hc
      rcases hc with hc | hc | hc
      · exact .inr ⟨s, List.mem_cons_self, hc⟩
      · exact .inl hc
      · refine (ih hc).imp_right ?_
        rintro ⟨u, hu, hc⟩
        exact ⟨u, List.mem_cons_of_mem s hu, hc⟩

theorem mem_joinWith_of_mem {sep s : String} {parts : List String} (hs : s ∈ parts)
    (hc : c ∈ s.toList) : c ∈ (joinWith sep parts).toList := by
  rw [toList_joinWith]
  induction parts with
  | nil => cases hs
  | cons t parts ih =>
    cases parts with
    | nil =>
      rw [List.mem_singleton.1 hs] at hc
      simpa using hc
    | cons u parts =>
      rw [List.map_cons, List.map_cons, List.intersperse_cons_cons, List.flatten_cons,
        List.flatten_cons, List.mem_append, List.mem_append]
      rcases List.mem_cons.1 hs with rfl | hs
      · exact .inl hc
      · exact .inr (.inr (ih hs))

end Text

namespace Files

variable {fs : Files} {path root' s : String} {names : List String} {bytes : List UInt8}

/-! ### Normal forms of paths -/

/-- A name that counts on a path. -/
structure IsName (s : String) : Prop where
  slash : '/' ∉ s.toList
  empty : s ≠ ""
  dot : s ≠ "."

theorem mem_of_mem_parts (hs : s ∈ parts path) :
    IsName s ∧ ∀ c ∈ s.toList, c ∈ path.toList := by
  obtain ⟨hmem, hkeep⟩ := List.mem_filter.1 hs
  obtain ⟨w, hw, rfl⟩ := List.mem_map.1 hmem
  have hchars (c : Char) (hc : c ∈ (String.ofList w).toList) : c ∈ path.toList ∧ c ≠ '/' := by
    obtain ⟨hmem, hslash⟩ := Text.mem_of_mem_splitWhere hw (by simpa using hc)
    exact ⟨hmem, by simpa using hslash⟩
  simp only [Bool.not_eq_true', Bool.or_eq_false_iff, decide_eq_false_iff_not] at hkeep
  exact ⟨⟨fun hm => (hchars _ hm).2 rfl, hkeep.1, hkeep.2⟩, fun c hc => (hchars c hc).1⟩

theorem parts_join (h : ∀ s ∈ names, IsName s) : parts (Text.joinWith "/" names) = names := by
  have hfilter : names.filter (fun s => !(s = "" || s = ".")) = names :=
    List.filter_eq_self.2 fun s hs => by simp [(h s hs).empty, (h s hs).dot]
  cases names with
  | nil => rfl
  | cons name names =>
    have hsplit : Text.splitWhere (· = '/') (Text.joinWith "/" (name :: names)).toList =
        (name :: names).map String.toList := by
      rw [Text.toList_joinWith]
      refine Text.splitWhere_intersperse ?_ rfl (by simp)
      simp only [List.forall_mem_map]
      intro s hs c hc
      have hslash := (h s hs).slash
      refine decide_eq_false fun heq => hslash ?_
      rwa [← heq]
    rw [parts, hsplit, List.map_map]
    simpa [Function.comp_def] using hfilter

theorem parts_slash (path : String) : parts ("/" ++ path) = parts path := by
  have hlist : ("/" ++ path).toList = '/' :: path.toList := by simp
  rw [parts, hlist, Text.splitWhere_of_mem rfl]
  rfl

/-- What an absolute path starts with, or nothing. -/
def IsRoot (s : String) : Prop := s = "" ∨ s = "/" ∨ s = "//"

theorem isRoot_root (path : String) : IsRoot (root path) := by
  unfold root IsRoot
  split <;> simp

theorem parts_rooted (hr : IsRoot root') (path : String) : parts (root' ++ path) = parts path := by
  rcases hr with rfl | rfl | rfl
  · rw [String.empty_append]
  · exact parts_slash path
  · have hslashes : "//" ++ path = "/" ++ ("/" ++ path) := by simp [← String.toList_inj]
    rw [hslashes, parts_slash, parts_slash]

theorem root_rooted (hr : IsRoot root') (hp : path.toList.head? ≠ some '/') :
    root (root' ++ path) = root' := by
  have htake : path.toList.takeWhile (· = '/') = [] := by
    cases h : path.toList with
    | nil => rfl
    | cons c cs =>
      rw [h] at hp
      exact List.takeWhile_cons_of_neg (by simpa using hp)
  rcases hr with rfl | rfl | rfl <;> simp [root, htake]

theorem head?_join (h : ∀ s ∈ names, IsName s) :
    (Text.joinWith "/" names).toList.head? ≠ some '/' := by
  cases names with
  | nil => simp [Text.joinWith]
  | cons name names =>
    obtain ⟨hslash, hempty, -⟩ := h name List.mem_cons_self
    have hne : name.toList ≠ [] := by simpa using hempty
    obtain ⟨c, cs, hcs⟩ := List.exists_cons_of_ne_nil hne
    have hhead : (Text.joinWith "/" (name :: names)).toList.head? = some c := by
      rw [Text.toList_joinWith]
      cases names <;> simp [hcs]
    rw [hhead]
    rintro heq
    cases heq
    exact hslash (by simp [hcs])

theorem isName_of_mem (hs : s ∈ parts path) : IsName s := (mem_of_mem_parts hs).1

theorem normal_cases (path : String) : (normal path = "." ∧ root path = "" ∧ parts path = []) ∨
    normal path = root path ++ Text.joinWith "/" (parts path) := by
  unfold normal
  split
  · next h =>
    have hnil : (root path).toList ++ (Text.joinWith "/" (parts path)).toList = [] := by
      rw [← String.toList_append, h]
      rfl
    obtain ⟨hroot, hjoin⟩ := List.append_eq_nil_iff.1 hnil
    have hparts := parts_join fun s (hs : s ∈ parts path) => isName_of_mem hs
    rw [String.toList_eq_nil_iff.1 hjoin] at hparts
    exact .inl ⟨rfl, String.toList_eq_nil_iff.1 hroot, hparts.symm⟩
  · exact .inr rfl

theorem parts_normal (path : String) : parts (normal path) = parts path := by
  rcases normal_cases path with ⟨hn, -, hparts⟩ | hn
  · rw [hn, hparts]
    rfl
  · rw [hn, parts_rooted (isRoot_root path), parts_join fun s hs => isName_of_mem hs]

theorem root_normal (path : String) : root (normal path) = root path := by
  rcases normal_cases path with ⟨hn, hroot, -⟩ | hn
  · rw [hn, hroot]
    rfl
  · rw [hn, root_rooted (isRoot_root path) (head?_join fun s hs => isName_of_mem hs)]

theorem normal_normal (path : String) : normal (normal path) = normal path := by
  rw [normal, parts_normal, root_normal]
  rfl

/-- A path and its normal form lead to the same place. -/
theorem entry_normal (fs : Files) (path : String) : fs.entry (normal path) = fs.entry path := by
  rw [entry, entry, locate, locate, normal_normal, origin, origin, root_normal, parts_normal]

theorem mem_of_mem_normal {c : Char} (hc : c ∈ (normal path).toList) (hslash : c ≠ '/')
    (hdot : c ≠ '.') : c ∈ path.toList := by
  rcases normal_cases path with ⟨hn, -, -⟩ | hn
  · rw [hn] at hc
    exact absurd (by simpa using hc) hdot
  · rw [hn, String.toList_append, List.mem_append] at hc
    rcases hc with hc | hc
    · rcases isRoot_root path with hr | hr | hr <;> simp [hr, hslash] at hc
    · obtain ⟨s, hs, hc⟩ := (Text.mem_joinWith hc).resolve_left (by simpa using hslash)
      exact (mem_of_mem_parts hs).2 c hc

theorem mem_normal_iff {c : Char} (hslash : c ≠ '/') (hdot : c ≠ '.') :
    c ∈ (normal path).toList ↔ c ∈ path.toList := by
  refine ⟨fun hc => mem_of_mem_normal hc hslash hdot, fun hc => ?_⟩
  obtain ⟨w, hw, hcw⟩ : ∃ w ∈ Text.splitWhere (· = '/') path.toList, c ∈ w :=
    Text.exists_mem_splitWhere hc (decide_eq_false hslash)
  have hpart : String.ofList w ∈ parts path := by
    refine List.mem_filter.2 ⟨List.mem_map_of_mem hw, ?_⟩
    have hempty : String.ofList w ≠ "" := fun h => by simp_all
    have hsingle : String.ofList w ≠ "." := fun h => by
      have hlist : w = ['.'] := by simpa using congrArg String.toList h
      simp_all
    simp [hempty, hsingle]
  rcases normal_cases path with ⟨-, -, hparts⟩ | hn
  · rw [hparts] at hpart
    cases hpart
  · rw [hn, String.toList_append]
    exact List.mem_append_right _ (Text.mem_joinWith_of_mem hpart (by simpa using hcw))

/-! ### Texts -/

theorem readText_normal (fs : Files) (path : String) :
    fs.readText (normal path) = fs.readText path := by
  have hnul : (normal path).toList.contains '\x00' = path.toList.contains '\x00' := by
    rw [Bool.eq_iff_iff, List.contains_iff_mem, List.contains_iff_mem]
    exact mem_normal_iff (by decide) (by decide)
  rw [readText, readText, hnul, read, read, entry_normal]

/-- The text of a file depends on what stands at its path only. -/
theorem readText_congr {fs' : Files} (h : fs.entry path = fs'.entry path) :
    fs.readText path = fs'.readText path := by
  rw [readText, readText, read, read, h]

theorem read_eq_ok_iff : fs.read path = .ok bytes ↔ fs.entry path = .ok (.file bytes) := by
  unfold read
  cases fs.entry path with
  | error r => exact iff_of_false nofun nofun
  | ok e => cases e <;> simp [bind, Except.bind]

theorem read_eq_missing_iff : fs.read path = .error .missing ↔ fs.entry path = .error .missing := by
  unfold read
  cases fs.entry path with
  | error r => simp [bind, Except.bind]
  | ok e => cases e <;> simp [bind, Except.bind]

theorem readText_of_bytes (hnul : '\x00' ∉ path.toList)
    (h : fs.entry path = .ok (.file bytes)) : fs.readText path =
      match Text.Utf8.decode? bytes with
      | some cs => .ok (Text.unifyBreaks cs)
      | none => .error .notUtf8 := by
  have hplain : ¬path.toList.contains '\x00' = true := by simpa using hnul
  have hread := read_eq_ok_iff.2 h
  cases hb : Text.Utf8.decode? bytes <;> simp only [readText, if_neg hplain, hread, hb]

/-- Why a path has no text: no file can have its name, the system refuses to read it, or its bytes
are no text. -/
theorem readText_eq_badName_iff : fs.readText path = .error .badName ↔ '\x00' ∈ path.toList := by
  unfold readText
  by_cases hnul : '\x00' ∈ path.toList
  · simp [hnul]
  · rw [if_neg (by simpa using hnul)]
    refine iff_of_false (fun h => ?_) hnul
    split at h
    · cases h
    · split at h <;> cases h

theorem readText_eq_refused_iff {r : Refusal} : fs.readText path = .error (.refused r) ↔
    '\x00' ∉ path.toList ∧ fs.read path = .error r := by
  unfold readText
  by_cases hnul : '\x00' ∈ path.toList
  · simp [hnul]
  · rw [if_neg (by simpa using hnul)]
    cases fs.read path with
    | error r' => simp [hnul]
    | ok bytes => cases h : Text.Utf8.decode? bytes <;> simp [h]

theorem readText_eq_notUtf8_iff : fs.readText path = .error .notUtf8 ↔ '\x00' ∉ path.toList ∧
    ∃ bytes, fs.entry path = .ok (.file bytes) ∧ Text.Utf8.decode? bytes = none := by
  simp only [← read_eq_ok_iff]
  unfold readText
  by_cases hnul : '\x00' ∈ path.toList
  · simp [hnul]
  · rw [if_neg (by simpa using hnul)]
    cases fs.read path with
    | error r => simp
    | ok bytes => cases h : Text.Utf8.decode? bytes <;> simp [hnul, h]

/-! ### Regular files -/

theorem isFile_iff : fs.isFile path = .ok true ↔
    '\x00' ∉ path.toList ∧ ∃ bytes, fs.entry path = .ok (.file bytes) := by
  unfold isFile
  by_cases hnul : '\x00' ∈ path.toList
  · simp [hnul]
  · rw [if_neg (by simpa using hnul)]
    split <;> simp_all

/-- Only names that are too long are refused. -/
theorem isFile_eq_error_iff {r : Refusal} : fs.isFile path = .error r ↔
    '\x00' ∉ path.toList ∧ fs.entry path = .error .nameTooLong ∧ r = .nameTooLong := by
  unfold isFile
  by_cases hnul : '\x00' ∈ path.toList
  · simp [hnul]
  · rw [if_neg (by simpa using hnul)]
    split <;> simp_all [eq_comm]

/-- A regular file has the text that its bytes spell, or none if they spell none. -/
theorem readText_of_isFile (h : fs.isFile path = .ok true) : ∃ bytes,
    fs.entry path = .ok (.file bytes) ∧ fs.readText (normal path) =
      match Text.Utf8.decode? bytes with
      | some cs => .ok (Text.unifyBreaks cs)
      | none => .error .notUtf8 := by
  obtain ⟨hnul, bytes, hbytes⟩ := isFile_iff.1 h
  exact ⟨bytes, hbytes, (readText_normal fs path).trans (readText_of_bytes hnul hbytes)⟩

end Files

end StateCheck
