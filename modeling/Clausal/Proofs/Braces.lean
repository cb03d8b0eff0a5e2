import Clausal.Proofs.Contents
import Clausal.Proofs.Fragments

/-! Target code and the braces in it.

A brace inside target code is written behind a backslash, and the backslash is taken away. Whether
a brace closes the code depends on the whole run of backslashes in front of it, but whether a
backslash is taken away depends on the next character alone. The two agree everywhere but in front
of the brace that closes the code, where an escaped backslash is lost.
-/

set_option autoImplicit false

namespace Clausal

namespace Text

/-- The text without the backslashes that stand directly in front of a brace. -/
def unbrace : List Char → List Char
  | [] => []
  | c :: rest =>
    if c = '\\' ∧ rest.head? = some '\x7d' then unbrace rest else c :: unbrace rest

theorem unbrace_append {text rest : List Char}
    (apart : text.getLast? = some '\\' → rest.head? ≠ some '\x7d') :
    unbrace (text ++ rest) = unbrace text ++ unbrace rest := by
  induction text with
  | nil => rfl
  | cons c others ih =>
    cases others with
    | nil =>
      have stays : ¬(c = '\\' ∧ rest.head? = some '\x7d') := by
        rintro ⟨rfl, brace⟩
        exact apart rfl brace
      simp [unbrace, stays]
    | cons d others =>
      have next : (d :: others ++ rest).head? = (d :: others).head? := rfl
      rw [List.cons_append, unbrace, unbrace, next, ih (by simpa using apart)]
      split
      · rfl
      · rfl

/-- A backslash at the end of the text is lost to the brace behind it. -/
theorem unbrace_concat_brace (text : List Char) :
    unbrace (text ++ ['\x7d']) =
      (if text.getLast? = some '\\' then (unbrace text).dropLast else unbrace text)
        ++ ['\x7d'] := by
  split
  · next last =>
    obtain ⟨init, rfl⟩ := List.getLast?_eq_some_iff.mp last
    have ends : unbrace (init ++ ['\\']) = unbrace init ++ ['\\'] :=
      unbrace_append (by simp)
    have behind : unbrace (init ++ ['\\', '\x7d']) = unbrace init ++ ['\x7d'] :=
      unbrace_append (by simp)
    rw [ends, List.dropLast_concat, List.append_assoc]
    exact behind
  · next other => exact unbrace_append (fun last => absurd last other)

end Text

namespace Region

theorem fate_code {escaped : Bool} {c : Char} {next : Option Char}
    (brace : c = '\x7d' → escaped = true) :
    fate escaped c next .code = if c = '\\' ∧ next = some '\x7d' then .dropped else .kept := by
  rw [fate]
  split
  · rfl
  · rw [if_neg]
    rintro ⟨rfl, bare⟩
    rw [brace rfl] at bare
    cases bare

/-- What is kept of target code, seen with the brace that closes it. -/
theorem retained_code {done text : List Char}
    (braces : ∀ before after, text = before ++ '\x7d' :: after →
      Text.endsEscaping (done ++ before) = true) :
    Region.code.retained (some '\x7d') done text ++ ['\x7d'] = Text.unbrace (text ++ ['\x7d']) := by
  induction text generalizing done with
  | nil => rfl
  | cons c rest ih =>
    have here : c = '\x7d' → Text.endsEscaping done = true := by
      rintro rfl
      simpa using braces [] rest rfl
    have later : ∀ before after, rest = before ++ '\x7d' :: after →
        Text.endsEscaping (done ++ [c] ++ before) = true := by
      intro before after split
      simpa using braces (c :: before) after (by rw [split]; rfl)
    have next : rest.head?.or (some '\x7d') = (rest ++ ['\x7d']).head? := by
      cases rest <;> rfl
    rw [retained, fate_code here, List.cons_append, Text.unbrace, next, ← ih later]
    by_cases drops : c = '\\' ∧ (rest ++ ['\x7d']).head? = some '\x7d'
    · rw [if_pos drops, if_pos drops]
    · rw [if_neg drops, if_neg drops]
      rfl

end Region

namespace Scanner

variable {s : Scanner}

/-- Target code is read up to the first brace that is not escaped. -/
theorem scans_code {contents : List Char} (inside : s.region = some .code)
    (reads : s.swallow = false) (unescaped : s.escaped = false)
    (braces : ∀ before after, contents = before ++ '\x7d' :: after →
      Text.endsEscaping before = true)
    (ends : Text.endsEscaping contents = false) :
    ∃ after, Scans (some '\x7d') s contents [] after ∧
      Filled .code (Region.code.retained (some '\x7d') [] contents) s after ∧
      after.escaped = false := by
  rw [← ends]
  refine scans_retained [] inside reads unescaped ?_
  rintro before c after split closes
  rw [List.nil_append, Region.fate_code] at closes
  · split at closes <;> cases closes
  · rintro rfl
    exact braces before after split

theorem ended_code {text : List Char} (pending : s.pending = text.reverse) (stop : Nat) :
    s.ended Region.code.kind Region.code.trims stop =
      if text = [] then []
      else [⟨.targetCode, String.ofList text, .between s.pendingStart stop⟩] := by
  simp [ended, pending, Region.kind, Region.trims, Sentence.Kind.standsAlone]

/-- A block of target code by itself leaves its contents and nothing else. -/
theorem scans_braced {contents : String}
    (braces : ∀ before after, contents.toList = before ++ '\x7d' :: after →
      Text.endsEscaping before = true)
    (ends : Text.endsEscaping contents.toList = false) {text : List Char}
    (kept : text = Region.code.retained (some '\x7d') [] contents.toList) :
    ∃ span after, after.Resting ∧ Scans none {} (Region.code.enclose contents).toList
      (if text = [] then [] else [⟨.targetCode, String.ofList text, span⟩]) after := by
  let opened : Scanner := ({ region := some .code } : Scanner).advance '\x7b'
  have opening : ({} : Scanner).step '\x7b' ((contents.toList ++ ['\x7d']).head?.or none) =
      .ok ([], opened) :=
    step_opens rfl rfl rfl .code _
  obtain ⟨full, scans, filled, escaped⟩ := scans_code (s := opened) rfl rfl rfl braces ends
  have closes : Region.fate full.escaped '\x7d' none .code = .closes := by
    rw [escaped]
    rfl
  have pending : full.pending = text.reverse := by
    rw [filled.pending, kept]
    exact List.append_nil _
  have closing := step_closes filled.region filled.swallow closes
  rw [ended_code pending] at closing
  have rests : ({ full with pending := [], region := none }.advance '\x7d').Resting :=
    ⟨rfl, filled.accessor, rfl, rfl, filled.swallow⟩
  refine ⟨.between full.pendingStart (full.index + 1), _, rests, ?_⟩
  rw [Region.enclose, String.toList_ofList]
  exact .cons opening (scans.concat closing)

end Scanner

/-- Target code becomes one sentence, in which every escaped brace has lost its backslash. So has
the brace that closes the code, although the backslash in front of it does not escape it. -/
theorem code_passes_through {contents : String}
    (braces : ∀ before after, contents.toList = before ++ '\x7d' :: after →
      Text.endsEscaping before = true)
    (ends : Text.endsEscaping contents.toList = false) :
    ∃ text span,
      (text = if contents.toList.getLast? = some '\\' then (Text.unbrace contents.toList).dropLast
        else Text.unbrace contents.toList) ∧
      scan (Region.code.enclose contents) = .ok
        { sentences := if text = [] then [] else [⟨.targetCode, String.ofList text, span⟩] } := by
  have shown := @Region.retained_code [] _ braces
  rw [Text.unbrace_concat_brace] at shown
  obtain ⟨span, after, rests, scans⟩ := Scanner.scans_braced braces ends rfl
  refine ⟨_, span, List.append_cancel_right shown, ?_⟩
  rw [scan_of_scans scans, rests.finish, List.append_nil]

/-- A brace that is escaped, and a backslash at the end that is not there to escape. -/
theorem escaped_brace_passes_through :
    ∃ span, scan (Region.code.enclose "if (x) \x7b y(); \\\x7d \\\\") = .ok
      { sentences := [⟨.targetCode, "if (x) \x7b y(); \x7d \\", span⟩] } := by
  obtain ⟨text, span, shown, scanned⟩ :=
    @code_passes_through "if (x) \x7b y(); \\\x7d \\\\" (Region.forall_split_iff.mpr (by decide))
      (by decide)
  have text : text = "if (x) \x7b y(); \x7d \\".toList := shown.trans (by decide)
  subst text
  exact ⟨span, scanned⟩

/-- A backslash that escapes nothing is lost. -/
theorem last_backslash_lost :
    Text.endsEscaping ['\\', '\\'] = false ∧ '\x7d' ∉ ['\\', '\\'] ∧
      Text.unbrace ['\\', '\\'] = ['\\', '\\'] ∧
      scan (Region.code.enclose "\\\\") = .ok
        { sentences := [⟨.targetCode, "\\", .between 1 4⟩] } := by
  decide

end Clausal
