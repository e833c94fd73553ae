import Mathlib.Data.List.TakeWhile
import Mathlib.Tactic.SplitIfs
import SyncLedger.Log.Filter
import SyncLedger.Proofs.Text.Blank

/-!
# Directives for targets

The directives that say something about the targets that begin with a name are written
`target` or `target=level`. A `TargetDirective` is such a text in its parts: the name has a
character at its front that a name may have there, none of its characters ends it, and what
follows the sign of equality is a level. So the text is read as what it is written for. The
same holds for the level of the components, which is read after their names.
-/

namespace SyncLedger

namespace DirectiveText

/-- Without blanks around it, the rest of a text is found where it is. -/
theorem onwards_of_append (before rest : List Char) :
    (⟨before ++ rest, before ++ rest⟩ : DirectiveText).onwards rest = rest := by
  rw [onwards, Text.byteCount_append, Nat.add_sub_cancel, Text.dropBytes_byteCount]

theorem between_of_append (word rest : List Char) :
    (⟨word ++ rest, word ++ rest⟩ : DirectiveText).between (word ++ rest) rest = word := by
  have hall := onwards_of_append [] (word ++ rest)
  rw [List.nil_append] at hall
  rw [between, Text.byteCount_append, Nat.add_sub_cancel, hall, Text.takeBytes_byteCount]

end DirectiveText

/-! ## Levels -/

namespace LogLimit

/-- The limit that the text after a sign of equality stands for. No text at all stands for the
limit that lets everything through. -/
def granted? (word : List Char) : Option LogLimit :=
  if word.isEmpty then some (some .trace) else read? word

theorem isAlphanum_of_digits? {cs : List Char} {n : Nat} (h : Text.digits? cs = some n) :
    ∀ c ∈ cs, c.isAlphanum = true := by
  intro c hc
  rw [Text.digits?] at h
  split_ifs at h with hdigits
  rw [Bool.and_eq_true] at hdigits
  rw [Char.isAlphanum, List.all_eq_true.mp hdigits.2 c hc, Bool.or_true]

theorem isAlphanum_or_eq_of_unsigned? {cs : List Char} {n : Nat}
    (h : Text.unsigned? cs = some n) : ∀ c ∈ cs, c.isAlphanum = true ∨ c = '+' := by
  intro c hc
  obtain ⟨hmagnitude, -⟩ := Option.filter_eq_some_iff.mp h
  split at hmagnitude
  · rcases List.mem_cons.mp hc with rfl | hc
    · exact .inr rfl
    · exact .inl (isAlphanum_of_digits? hmagnitude c hc)
  · exact .inl (isAlphanum_of_digits? hmagnitude c hc)

theorem isAlphanum_of_name {limit : LogLimit} {cs : List Char}
    (h : limit.name.toList = cs.map Char.toUpper) : ∀ c ∈ cs, c.isAlphanum = true := by
  intro c hc
  have hnames : limit.name.toList.all Char.isUpper = true := by
    cases limit with
    | none => decide
    | some level => cases level <;> decide
  have hupper := List.all_eq_true.mp hnames c.toUpper (h ▸ List.mem_map_of_mem hc)
  unfold Char.isAlphanum Char.isAlpha
  unfold Char.toUpper at hupper
  split at hupper
  · rename_i hlower
    have hlow : c.isLower = true :=
      Bool.and_eq_true_iff.mpr ⟨decide_eq_true hlower.1, decide_eq_true hlower.2⟩
    rw [hlow, Bool.or_true, Bool.true_or]
  · rw [hupper, Bool.true_or, Bool.true_or]

/-- A level is written with letters or digits, and with a plus sign at most. -/
theorem isAlphanum_or_eq_of_read? {cs : List Char} {limit : LogLimit}
    (h : read? cs = some limit) : ∀ c ∈ cs, c.isAlphanum = true ∨ c = '+' := by
  intro c hc
  rw [read?] at h
  split at h
  · rename_i hnumber
    obtain ⟨n, hn, -⟩ := Option.bind_eq_some_iff.mp hnumber
    exact isAlphanum_or_eq_of_unsigned? hn c hc
  · split_ifs at h with hempty
    · rw [List.isEmpty_iff.mp hempty] at hc
      cases hc
    · have hname := List.find?_some h
      exact .inl (isAlphanum_of_name (of_decide_eq_true hname) c hc)

theorem isAlphanum_or_eq_of_granted? {word : List Char} {limit : LogLimit}
    (h : granted? word = some limit) : ∀ c ∈ word, c.isAlphanum = true ∨ c = '+' := by
  rw [granted?] at h
  split_ifs at h with hempty
  · rw [List.isEmpty_iff.mp hempty]
    exact List.forall_mem_nil _
  · exact isAlphanum_or_eq_of_read? h

end LogLimit

/-! ## Directives -/

/-- A directive for the targets that begin with a name, in the parts of its text. -/
structure TargetDirective where
  target : List Char
  /-- What follows the sign of equality, if there is one. -/
  word : Option (List Char)
  limit : LogLimit
  begins : ∃ c ∈ target.head?, LogDirective.mayStart c = true
  isName : ∀ c ∈ target, c ≠ ',' ∧ c ≠ '=' ∧ c ≠ '['
  /-- A name alone lets everything through, and is not that of a level. -/
  isBare : word = none → LogLimit.read? target = none ∧ limit = some .trace
  isLevel : ∀ w, word = some w → LogLimit.granted? w = some limit

theorem isName_of_all {cs : List Char}
    (h : (cs.all fun c => c ≠ ',' ∧ c ≠ '=' ∧ c ≠ '[') = true) :
    ∀ c ∈ cs, c ≠ ',' ∧ c ≠ '=' ∧ c ≠ '[' :=
  fun c hc => of_decide_eq_true (List.all_eq_true.mp h c hc)

namespace TargetDirective

def text (d : TargetDirective) : List Char :=
  match d.word with
  | none => d.target
  | some w => d.target ++ '=' :: w

def directive (d : TargetDirective) : LogDirective := .plain (some d.target) d.limit

variable (d : TargetDirective)

theorem exists_target_eq_cons :
    ∃ c cs, d.target = c :: cs ∧ LogDirective.mayStart c = true ∧ Text.isBlank c = false := by
  obtain ⟨c, hc, hstart⟩ := d.begins
  cases htarget : d.target with
  | nil =>
      rw [htarget] at hc
      cases hc
  | cons b cs =>
      rw [htarget] at hc
      obtain rfl := Option.some.inj hc
      refine ⟨b, cs, rfl, hstart, ?_⟩
      simp only [LogDirective.mayStart, Bool.or_eq_true, decide_eq_true_eq] at hstart
      rcases hstart with ((rfl | rfl) | rfl) | hletter
      · decide
      · decide
      · decide
      · exact Text.isBlank_eq_false_of_isAlphanumeric hletter

theorem dropWhile_target (rest : List Char) :
    (d.target ++ rest).dropWhile (fun c => c ≠ '=' && c ≠ '[') =
      rest.dropWhile fun c => c ≠ '=' && c ≠ '[' := by
  refine List.dropWhile_append_of_pos fun c hc => ?_
  obtain ⟨-, heq, hbracket⟩ := d.isName c hc
  simp [heq, hbracket]

theorem trim_text_of_isLevel {w : List Char} (hw : d.word = some w) :
    Text.trim (d.target ++ '=' :: w) = d.target ++ '=' :: w := by
  obtain ⟨c, cs, htarget, -, hblank⟩ := d.exists_target_eq_cons
  refine Text.trim_eq_self (fun b hb => ?_) fun b hb => ?_
  · rw [htarget] at hb
    obtain rfl := Option.some.inj hb
    exact hblank
  · rw [List.getLast?_append, List.getLast?_cons, Option.some_or] at hb
    obtain rfl := Option.some.inj hb
    cases hlast : w.getLast? with
    | none => decide
    | some b =>
        have hchar := LogLimit.isAlphanum_or_eq_of_granted? (d.isLevel w hw) b
          (List.mem_of_getLast? hlast)
        rcases hchar with hletter | rfl
        · refine Text.isBlank_eq_false_of_isAlphanumeric ?_
          rw [Option.getD_some, Text.isAlphanumeric, hletter, Bool.true_or]
        · decide

theorem level_of_isLevel {w : List Char} (hw : d.word = some w) :
    LogDirective.level ⟨d.target ++ '=' :: w, d.target ++ '=' :: w⟩ w = .ok d.limit := by
  have hend : w.dropWhile (· ≠ ',') = [] := by
    refine List.dropWhile_eq_nil_iff.mpr fun c hc => ?_
    rcases LogLimit.isAlphanum_or_eq_of_granted? (d.isLevel w hw) c hc with hletter | rfl
    · refine decide_eq_true ?_
      rintro rfl
      cases hletter
    · rfl
  have honwards := DirectiveText.onwards_of_append (d.target ++ ['=']) w
  rw [List.append_assoc, List.singleton_append] at honwards
  have hlimit := d.isLevel w hw
  rw [LogLimit.granted?] at hlimit
  simp only [LogDirective.level, hend, honwards, List.isEmpty_nil, if_true, hlimit]
  rfl

/-- The text of a directive is read as that directive. -/
theorem read_text : LogDirective.read d.text = .ok d.directive := by
  obtain ⟨c, cs, htarget, hstart, hblank⟩ := d.exists_target_eq_cons
  have hbracket : c ≠ '[' := (d.isName c (htarget ▸ List.mem_cons_self)).2.2
  cases hword : d.word with
  | none =>
      obtain ⟨hname, hlimit⟩ := d.isBare hword
      have hbody : Text.trim d.target = c :: Text.trimEnd cs := by
        rw [htarget, Text.trim_cons hblank]
      have hrest : (c :: Text.trimEnd cs).dropWhile (fun c => c ≠ '=' && c ≠ '[') = [] := by
        refine List.dropWhile_eq_nil_iff.mpr fun b hb => ?_
        have hmem : b ∈ d.target := by
          rw [htarget]
          rcases List.mem_cons.mp hb with rfl | hb
          · exact List.mem_cons_self
          · exact List.mem_cons_of_mem _ (Text.mem_of_mem_trimEnd hb)
        obtain ⟨-, heq, hopen⟩ := d.isName b hmem
        simp [heq, hopen]
      have htext : d.text = d.target := by rw [text, hword]
      rw [htext, directive, hlimit, LogDirective.read]
      simp only [DirectiveText.ofText, hbody, hrest, hname, hstart]
      simp
  | some w =>
      have htext : d.text = d.target ++ '=' :: w := by rw [text, hword]
      have hbetween := DirectiveText.between_of_append d.target ('=' :: w)
      have hlevel := d.level_of_isLevel hword
      have hrest : (d.target ++ '=' :: w).dropWhile (fun c => c ≠ '=' && c ≠ '[') = '=' :: w := by
        rw [dropWhile_target]
        rfl
      rw [htext, directive, LogDirective.read, DirectiveText.ofText, d.trim_text_of_isLevel hword]
      rw [htarget, List.cons_append] at hrest hbetween hlevel ⊢
      simp only [hrest, hbetween, hstart]
      simp [hlevel, Except.map]

end TargetDirective

end SyncLedger
