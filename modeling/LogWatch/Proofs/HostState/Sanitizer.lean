import LogWatch.HostState.Sanitizer
import Mathlib.Algebra.Ring.Parity
import Mathlib.Data.List.TakeDrop
import Mathlib.Data.List.TakeWhile

/-!
# What a command line shows

Whether an argument is hidden is decided by the arguments before it, and an argument that is hidden
hides nothing itself. Counted from the left, the hidden arguments are those at the **value
positions** (`LogWatch.Sanitizer.IsValueAt`), which are said here without the scan: a value is
announced by the argument before it, which is no value. What an argument becomes depends on its
position in no other way (`LogWatch.Sanitizer.getElem?_tokens`).

So two command lines that differ in nothing but secrets are shown alike, what is no secret is shown
as it is, and nothing more is hidden the second time (`LogWatch.Sanitizer.commandLine_hides`).

The one thing that is not hidden is what follows a secret flag that is a value itself. Of adjacent
flags every other one is, from the second on (`LogWatch.Sanitizer.isValueAt_iff_odd`), and so a flag
is a flag just if an even number of them stand directly before it.
-/

namespace LogWatch

namespace Sanitizer

/-! ### Values and assignments -/

/-- **The name announces a secret value**: it assigns nothing, and is a secret flag, or the name of
a secret before an argument that does not begin with a hyphen. -/
def Announces (name value : List Char) : Prop :=
  '=' ∉ name ∧
    (isSecretFlag name = true ∨ isSecretName (bare name) = true ∧ value.head? ≠ some '-')

instance (name value : List Char) : Decidable (Announces name value) :=
  inferInstanceAs (Decidable (_ ∧ _))

/-- **A value position**: what stands there is announced by the argument before it, and that one
stands at no value position. -/
def IsValueAt (args : List String) : Nat → Prop
  | 0 => False
  | j + 1 => ¬IsValueAt args j ∧
      ∃ name ∈ args[j]?, ∃ value ∈ args[j + 1]?, Announces name.toList value.toList

instance decidableIsValueAt (args : List String) : (j : Nat) → Decidable (IsValueAt args j)
  | 0 => inferInstanceAs (Decidable False)
  | j + 1 =>
    have := decidableIsValueAt args j
    inferInstanceAs (Decidable (_ ∧ _))

/-- **A secret is assigned**: a secret key stands before the first equals sign. -/
structure Assigns (arg : String) (key value : List Char) : Prop where
  /-- The argument has an equals sign. -/
  toList_eq : arg.toList = key ++ '=' :: value
  /-- It is the first one. -/
  not_mem : '=' ∉ key
  /-- The key is secret. -/
  isSecret : isSecret key = true

/-- What stands before the first equals sign, or the whole argument if it has none. -/
def keyOf (arg : String) : List Char := arg.toList.takeWhile (· != '=')

/-- What an argument that is no value is shown as. -/
def shown (arg : String) : String :=
  if '=' ∈ arg.toList ∧ isSecret (keyOf arg) = true then
    String.ofList (keyOf arg) ++ "=" ++ hidden
  else arg

section Arguments

variable {arg : String} {key value cs : List Char}

/-- What has an equals sign has a first one. -/
theorem span_of_mem (h : '=' ∈ cs) :
    ∃ value, cs.span (· != '=') = (cs.takeWhile (· != '='), '=' :: value) := by
  rw [List.span_eq_takeWhile_dropWhile]
  cases hdrop : cs.dropWhile (· != '=') with
  | nil =>
    rw [List.dropWhile_eq_nil_iff] at hdrop
    exact absurd (hdrop '=' h) (by decide)
  | cons c value =>
    have hc := List.head?_dropWhile_not (· != '=') cs
    rw [hdrop] at hc
    obtain rfl : c = '=' := by simpa using hc
    exact ⟨value, rfl⟩

theorem span_of_not_mem (h : '=' ∉ cs) : cs.span (· != '=') = (cs, []) := by
  have hall : ∀ c ∈ cs, (c != '=') = true := fun c hc =>
    bne_iff_ne.mpr fun heq => h (heq ▸ hc)
  rw [List.span_eq_takeWhile_dropWhile, List.takeWhile_eq_self_iff.mpr hall,
    List.dropWhile_eq_nil_iff.mpr hall]

theorem Assigns.keyOf_eq (h : Assigns arg key value) : keyOf arg = key := by
  have hall : ∀ c ∈ key, (c != '=') = true := fun c hc =>
    bne_iff_ne.mpr fun heq => h.not_mem (heq ▸ hc)
  rw [keyOf, h.toList_eq, List.takeWhile_append_of_pos hall, List.takeWhile_cons_of_neg (by decide),
    List.append_nil]

theorem Assigns.shown_eq (h : Assigns arg key value) :
    shown arg = String.ofList key ++ "=" ++ hidden := by
  have hmem : '=' ∈ arg.toList := by
    rw [h.toList_eq]
    exact List.mem_append_right _ List.mem_cons_self
  rw [shown, h.keyOf_eq, if_pos ⟨hmem, h.isSecret⟩]

/-- An argument assigns a secret, or it is shown as it is. -/
theorem assigns_or_shown_eq (arg : String) :
    (∃ key value, Assigns arg key value) ∨ shown arg = arg := by
  rw [shown]
  split
  · next h =>
    obtain ⟨value, hspan⟩ := span_of_mem h.1
    have heq := List.takeWhile_append_dropWhile (p := (· != '=')) (l := arg.toList)
    rw [List.span_eq_takeWhile_dropWhile] at hspan
    rw [(Prod.mk.inj hspan).2] at heq
    refine .inl ⟨keyOf arg, value, heq.symm, fun hmem => ?_, h.2⟩
    simpa using List.mem_takeWhile_imp hmem
  · exact .inr rfl

theorem shown_of_not_assigns (h : ∀ key value, ¬Assigns arg key value) : shown arg = arg := by
  obtain ⟨key, value, hassigns⟩ | heq := assigns_or_shown_eq arg
  · exact absurd hassigns (h key value)
  · exact heq

theorem shown_of_not_mem (h : '=' ∉ arg.toList) : shown arg = arg := by
  rw [shown, if_neg fun hand => h hand.1]

/-- What is hidden behind an assignment is an assignment to the same key. -/
theorem Assigns.assigns_shown (h : Assigns arg key value) :
    Assigns (shown arg) key hidden.toList := by
  refine ⟨?_, h.not_mem, h.isSecret⟩
  rw [h.shown_eq, String.toList_append, String.toList_append, String.toList_ofList,
    List.append_assoc]
  rfl

theorem shown_shown (arg : String) : shown (shown arg) = shown arg := by
  obtain ⟨key, value, h⟩ | heq := assigns_or_shown_eq arg
  · rw [h.assigns_shown.shown_eq, h.shown_eq]
  · rw [heq, heq]

theorem mem_shown_iff (arg : String) : '=' ∈ (shown arg).toList ↔ '=' ∈ arg.toList := by
  obtain ⟨key, value, h⟩ | heq := assigns_or_shown_eq arg
  · rw [h.assigns_shown.toList_eq, h.toList_eq]
    simp
  · rw [heq]

/-- What an argument begins with is not hidden. -/
theorem head?_shown (arg : String) : (shown arg).toList.head? = arg.toList.head? := by
  obtain ⟨key, value, h⟩ | heq := assigns_or_shown_eq arg
  · rw [h.assigns_shown.toList_eq, h.toList_eq, List.head?_append, List.head?_append]
    rfl
  · rw [heq]

end Arguments

/-! ### The scan -/

section Scan

variable {args args' rest : List String} {arg : String} {j : Nat}

theorem tokens_true_cons : tokens true (arg :: rest) = hidden :: tokens false rest := by
  rw [tokens.eq_def]
  rfl

/-- One step of the scan at an argument that is no value. -/
theorem tokens_false_cons : tokens false (arg :: rest) =
    shown arg ::
      tokens (decide (∃ value ∈ rest.head?, Announces arg.toList value.toList)) rest := by
  rw [tokens.eq_def]
  dsimp only
  rw [if_neg Bool.false_ne_true]
  by_cases hmem : '=' ∈ arg.toList
  · obtain ⟨value, hspan⟩ := span_of_mem hmem
    have hnone : ¬∃ value ∈ rest.head?, Announces arg.toList value.toList := by
      rintro ⟨value, -, hannounces⟩
      exact hannounces.1 hmem
    rw [hspan, decide_eq_false hnone, shown]
    dsimp only
    rw [assignment, String.ofList_toList, ← keyOf]
    simp only [hmem, true_and]
  · rw [span_of_not_mem hmem, shown_of_not_mem hmem]
    cases rest with
    | nil => rfl
    | cons next rest =>
      have hnext : hidesNext arg.toList next.toList =
          decide (∃ value ∈ (next :: rest).head?, Announces arg.toList value.toList) := by
        rw [Bool.eq_iff_iff, decide_eq_true_iff]
        simp [hidesNext, Announces, hmem]
      dsimp only
      rw [hnext]

/-- **After so many arguments** the scan goes on with the others, and hides the first of them just
if that one stands at a value position. -/
theorem drop_tokens (args : List String) (j : Nat) :
    (tokens false args).drop j = tokens (decide (IsValueAt args j)) (args.drop j) := by
  induction j with
  | zero => rfl
  | succ j ih =>
    rw [← List.drop_drop, ih, ← List.drop_drop]
    cases hdrop : args.drop j with
    | nil => cases h : decide (IsValueAt args j) <;> rfl
    | cons arg rest =>
      have harg : args[j]? = some arg := by
        rw [← List.head?_drop, hdrop]
        rfl
      have hnext : args[j + 1]? = rest.head? := by
        rw [← List.head?_drop, ← List.drop_drop, hdrop]
        rfl
      by_cases hvalue : IsValueAt args j
      · have hsucc : ¬IsValueAt args (j + 1) := fun h => h.1 hvalue
        rw [decide_eq_true hvalue, decide_eq_false hsucc, tokens_true_cons]
        rfl
      · have hsucc : IsValueAt args (j + 1) ↔
            ∃ value ∈ rest.head?, Announces arg.toList value.toList := by
          rw [IsValueAt, harg, hnext]
          simp [hvalue]
        rw [decide_eq_false hvalue, decide_eq_decide.mpr hsucc, tokens_false_cons]
        rfl

/-- **What an argument becomes**: a value is hidden, and of the others what they assign to a secret
key. -/
theorem getElem?_tokens (args : List String) (j : Nat) : (tokens false args)[j]? =
    args[j]?.map fun arg => if IsValueAt args j then hidden else shown arg := by
  rw [← List.head?_drop, drop_tokens, ← List.head?_drop]
  cases args.drop j with
  | nil => cases h : decide (IsValueAt args j) <;> rfl
  | cons arg rest =>
    by_cases hvalue : IsValueAt args j
    · rw [decide_eq_true hvalue, tokens_true_cons, List.head?_cons, List.head?_cons,
        Option.map_some, if_pos hvalue]
    · rw [decide_eq_false hvalue, tokens_false_cons, List.head?_cons, List.head?_cons,
        Option.map_some, if_neg hvalue]

/-! ### Command lines that are shown alike -/

/-- Two arguments that agree but for what they assign to a secret key. -/
def AgreeOpenly (arg arg' : String) : Prop :=
  arg = arg' ∨ ∃ key value value', Assigns arg key value ∧ Assigns arg' key value'

/-- **The command lines differ only in secrets**, in values and in what is assigned to secret
keys. -/
structure DifferInSecrets (args args' : List String) : Prop where
  /-- They are of the same length. -/
  length_eq : args.length = args'.length
  /-- They have values at the same positions. -/
  isValueAt_iff : ∀ j < args.length, IsValueAt args j ↔ IsValueAt args' j
  /-- The other arguments agree but for what they assign to secret keys. -/
  agree : ∀ (j : Nat) (arg arg' : String), args[j]? = some arg → args'[j]? = some arg' →
    ¬IsValueAt args j → AgreeOpenly arg arg'

theorem AgreeOpenly.shown_eq {arg' : String} (h : AgreeOpenly arg arg') :
    shown arg = shown arg' := by
  obtain rfl | ⟨key, value, value', h, h'⟩ := h
  · rfl
  · rw [h.shown_eq, h'.shown_eq]

/-- **What differs only in secrets is shown alike.** -/
theorem DifferInSecrets.tokens_eq (h : DifferInSecrets args args') :
    tokens false args = tokens false args' := by
  refine List.ext_getElem? fun j => ?_
  rw [getElem?_tokens, getElem?_tokens]
  rcases Nat.lt_or_ge j args.length with hj | hj
  · have harg := List.getElem?_eq_getElem hj
    have harg' := List.getElem?_eq_getElem (h.length_eq ▸ hj)
    rw [harg, harg', Option.map_some, Option.map_some, Option.some_inj]
    by_cases hvalue : IsValueAt args j
    · rw [if_pos hvalue, if_pos ((h.isValueAt_iff j hj).mp hvalue)]
    · rw [if_neg hvalue, if_neg fun hvalue' => hvalue ((h.isValueAt_iff j hj).mpr hvalue')]
      exact (h.agree j _ _ harg harg' hvalue).shown_eq
  · rw [List.getElem?_eq_none hj, List.getElem?_eq_none (h.length_eq ▸ hj)]
    rfl

/-! ### Hiding twice -/

/-- A name that is shown announces the same values, and those that it announces are still announced
when they are hidden. -/
theorem announces_shown_iff {name value : String} {isValue : Prop} [Decidable isValue]
    (h : isValue ↔ Announces name.toList value.toList) :
    Announces (shown name).toList (if isValue then hidden else shown value).toList ↔
      Announces name.toList value.toList := by
  by_cases hname : '=' ∈ name.toList
  · exact ⟨fun hann => absurd ((mem_shown_iff name).mpr hname) hann.1,
      fun hann => absurd hname hann.1⟩
  · rw [shown_of_not_mem hname]
    by_cases hvalue : isValue
    · rw [if_pos hvalue]
      -- what stands for a hidden value does not begin with a hyphen
      exact ⟨fun _ => h.mp hvalue, fun hann => ⟨hann.1, hann.2.imp_right fun hkey =>
        ⟨hkey.1, by decide⟩⟩⟩
    · rw [if_neg hvalue, Announces, head?_shown, ← Announces]

/-- Hiding changes no value position. -/
theorem isValueAt_tokens_iff (args : List String) (j : Nat) :
    IsValueAt (tokens false args) j ↔ IsValueAt args j := by
  induction j with
  | zero => exact Iff.rfl
  | succ j ih =>
    rw [IsValueAt, ih, IsValueAt]
    refine and_congr_right fun hvalue => ?_
    rw [getElem?_tokens, getElem?_tokens]
    cases harg : args[j]? with
    | none => simp
    | some name =>
      cases hnext : args[j + 1]? with
      | none => simp
      | some value =>
        have hsucc : IsValueAt args (j + 1) ↔ Announces name.toList value.toList := by
          rw [IsValueAt, harg, hnext]
          simp [hvalue]
        simpa [hvalue] using announces_shown_iff hsucc

/-- **Nothing more is hidden the second time.** -/
theorem tokens_tokens (args : List String) :
    tokens false (tokens false args) = tokens false args := by
  refine List.ext_getElem? fun j => ?_
  rw [getElem?_tokens, getElem?_tokens, Option.map_map]
  refine congrArg (Option.map · _) (funext fun arg => ?_)
  rw [Function.comp_apply]
  by_cases hvalue : IsValueAt args j
  · rw [if_pos ((isValueAt_tokens_iff args j).mpr hvalue), if_pos hvalue]
  · rw [if_neg fun h => hvalue ((isValueAt_tokens_iff args j).mp h), if_neg hvalue, shown_shown]

/-- **A command line shows nothing of its secrets** and all of the rest. Command lines that differ
only in secrets look the same; every argument that is no value and assigns nothing to a secret key
is there as it was; and the arguments as they are shown have no secrets left. -/
theorem commandLine_hides :
    (∀ args args' : List String, DifferInSecrets args args' →
      commandLine args = commandLine args') ∧
      (∀ (args : List String) (j : Nat) (arg : String), args[j]? = some arg →
        (IsValueAt args j → (tokens false args)[j]? = some hidden) ∧
        (¬IsValueAt args j → ∀ key value, Assigns arg key value →
          (tokens false args)[j]? = some (String.ofList key ++ "=" ++ hidden)) ∧
        (¬IsValueAt args j → (∀ key value, ¬Assigns arg key value) →
          (tokens false args)[j]? = some arg)) ∧
      ∀ args : List String, tokens false (tokens false args) = tokens false args ∧
        commandLine (tokens false args) = commandLine args := by
  refine ⟨fun args args' h => ?_, fun args j arg harg => ?_, fun args => ?_⟩
  · rw [commandLine, commandLine, h.tokens_eq]
  · rw [getElem?_tokens, harg, Option.map_some]
    refine ⟨fun hvalue => ?_, fun hvalue key value hassigns => ?_, fun hvalue hnone => ?_⟩
    · rw [if_pos hvalue]
    · rw [if_neg hvalue, hassigns.shown_eq]
    · rw [if_neg hvalue, shown_of_not_assigns hnone]
  · rw [commandLine, commandLine, tokens_tokens]
    exact ⟨rfl, rfl⟩

end Scan

/-- Of two command lines that differ in two values and in an assignment the same is shown. The flag
behind the first value's flag is that value, and announces nothing. -/
theorem commandLine_hides_three_secrets :
    let args := ["a", "--Token", "--secret", "b", "--db-key", "c", "PASSWORD=d=e", "f=g"]
    let args' := ["a", "--Token", "", "b", "--db-key", "hh", "PASSWORD=", "f=g"]
    DifferInSecrets args args' ∧ commandLine args = commandLine args' ∧
      commandLine args =
        "a --Token [REDACTED] b --db-key [REDACTED] PASSWORD=[REDACTED] f=g" := by
  intro args args'
  have hdiffer : DifferInSecrets args args' := by
    refine ⟨rfl, by decide +kernel, fun j arg arg' harg harg' hvalue => ?_⟩
    have hj : j < 8 := (List.getElem?_eq_some_iff.mp harg).1
    by_cases hj6 : j = 6
    · subst hj6
      obtain rfl := Option.some.inj harg
      obtain rfl := Option.some.inj harg'
      exact .inr ⟨"PASSWORD".toList, "d=e".toList, [], ⟨by decide +kernel, by decide +kernel,
        by decide +kernel⟩, ⟨by decide +kernel, by decide +kernel, by decide +kernel⟩⟩
    · have hsame : ∀ j < 8, j ≠ 6 → ¬IsValueAt args j → args[j]? = args'[j]? := by
        decide +kernel
      refine .inl (Option.some.inj ?_)
      rw [← harg, ← harg', hsame j hj hj6 hvalue]
  exact ⟨hdiffer, commandLine_hides.1 args args' hdiffer, by decide +kernel⟩

/-! ### What follows a secret flag -/

section Flags

variable {args : List String} {flag next name : String} {cs name' value : List Char} {i : Nat}

/-- What is a hyphen in lower case is a hyphen. -/
theorem eq_hyphen_of_toLower {c : Char} (h : c.toLower = '-') : c = '-' := by
  delta Char.toLower at h
  split at h
  · next hupper =>
    have hval := congrArg (fun c : Char => c.val.toNat) h
    have hge := UInt32.le_iff_toNat_le.mp hupper.1
    have hle := UInt32.le_iff_toNat_le.mp hupper.2
    simp at hval hge hle
    omega
  · exact h

/-- **A secret flag begins with a hyphen** and assigns nothing. -/
theorem head?_of_isSecretFlag (h : isSecretFlag cs = true) : cs.head? = some '-' ∧ '=' ∉ cs := by
  have hflags : ∀ flag ∈ secretFlags, flag.toList.head? = some '-' ∧ '=' ∉ flag.toList := by
    decide +kernel
  obtain ⟨flag, hmem, hlower⟩ := List.any_eq_true.mp h
  have hlower := eq_of_beq hlower
  obtain ⟨hhead, hassigns⟩ := hflags flag hmem
  rw [hlower, lower] at hhead hassigns
  constructor
  · rw [List.head?_map, Option.map_eq_some_iff] at hhead
    obtain ⟨c, hc, hhyphen⟩ := hhead
    rw [hc, eq_hyphen_of_toLower hhyphen]
  · intro hmem
    exact hassigns (List.mem_map.mpr ⟨'=', hmem, rfl⟩)

/-- Nothing but a secret flag announces a secret flag. -/
theorem announces_flag_iff (hflag : isSecretFlag value = true) :
    Announces name' value ↔ isSecretFlag name' = true := by
  constructor
  · rintro ⟨-, hname | ⟨-, hhyphen⟩⟩
    · exact hname
    · exact absurd (head?_of_isSecretFlag hflag).1 hhyphen
  · intro hname
    exact ⟨(head?_of_isSecretFlag hname).2, .inl hname⟩

/-- **The secret flags directly before** a position, up to an argument that is none. -/
def flagsBefore (args : List String) (i : Nat) : Nat :=
  ((args.take i).reverse.takeWhile fun arg => isSecretFlag arg.toList).length

theorem flagsBefore_succ (h : args[i]? = some name) : flagsBefore args (i + 1) =
    if isSecretFlag name.toList = true then flagsBefore args i + 1 else 0 := by
  have htake : args.take (i + 1) = args.take i ++ [name] := by
    rw [List.take_add_one, h, Option.toList_some]
  rw [flagsBefore, htake, List.reverse_append, List.reverse_singleton, List.singleton_append,
    List.takeWhile_cons]
  split
  · rw [List.length_cons, flagsBefore]
  · rw [List.length_nil]

/-- **Of adjacent secret flags every other one is a value**: the second is that of the first, and
then the third is none. -/
theorem isValueAt_iff_odd (hflag : args[i]? = some flag)
    (hsecret : isSecretFlag flag.toList = true) :
    IsValueAt args i ↔ Odd (flagsBefore args i) := by
  induction i generalizing flag with
  | zero => simp [IsValueAt, flagsBefore]
  | succ i ih =>
    have hi : i < args.length := by
      have hlt := (List.getElem?_eq_some_iff.mp hflag).1
      omega
    have hname := List.getElem?_eq_getElem hi
    have hvalue : IsValueAt args (i + 1) ↔
        ¬IsValueAt args i ∧ isSecretFlag args[i].toList = true := by
      rw [IsValueAt, hname, hflag]
      simp [announces_flag_iff hsecret]
    rw [hvalue, flagsBefore_succ hname]
    by_cases hprev : isSecretFlag args[i].toList = true
    · rw [if_pos hprev, ih hname hprev, Nat.odd_add_one]
      exact and_iff_left hprev
    · rw [if_neg hprev]
      exact ⟨fun h => absurd h.2 hprev, fun h => absurd h Nat.not_odd_zero⟩

/-- **What follows a secret flag is hidden** if the flag is one, that is, if an even number of
secret flags stand directly before it. If the number is odd, the flag is hidden as the value of the
one before, and what follows it is shown like any argument that is no value. -/
theorem tokens_after_flag (hflag : args[i]? = some flag)
    (hsecret : isSecretFlag flag.toList = true) (hnext : args[i + 1]? = some next) :
    (Even (flagsBefore args i) → (tokens false args)[i + 1]? = some hidden) ∧
      (Odd (flagsBefore args i) → (tokens false args)[i]? = some hidden ∧
        (tokens false args)[i + 1]? = some (shown next)) := by
  have hvalue := isValueAt_iff_odd hflag hsecret
  constructor
  · intro heven
    have hno : ¬IsValueAt args i := fun h => Nat.not_odd_iff_even.mpr heven (hvalue.mp h)
    have hsucc : IsValueAt args (i + 1) :=
      ⟨hno, flag, hflag, next, hnext, (head?_of_isSecretFlag hsecret).2, .inl hsecret⟩
    rw [getElem?_tokens, hnext, Option.map_some, if_pos hsucc]
  · intro hodd
    have hyes := hvalue.mpr hodd
    have hsucc : ¬IsValueAt args (i + 1) := fun h => h.1 hyes
    constructor
    · rw [getElem?_tokens, hflag, Option.map_some, if_pos hyes]
    · rw [getElem?_tokens, hnext, Option.map_some, if_neg hsucc]

/-- Behind the third of three flags a value is hidden. -/
theorem tokens_after_flag_third :
    let args := ["a", "--token", "--secret", "--PASSWORD", "b"]
    args[3]? = some "--PASSWORD" ∧ isSecretFlag "--PASSWORD".toList = true ∧
      args[4]? = some "b" ∧ Even (flagsBefore args 3) ∧
      (tokens false args)[4]? = some hidden := by
  intro args
  have hsecret : isSecretFlag "--PASSWORD".toList = true := by decide +kernel
  have heven : Even (flagsBefore args 3) := by decide +kernel
  have hnext : args[4]? = some "b" := rfl
  exact ⟨rfl, hsecret, hnext, heven, (tokens_after_flag rfl hsecret hnext).1 heven⟩

/-- **What follows a secret flag can be shown**: behind two of them it is. -/
theorem exists_shown_after_flag :
    ∃ (args : List String) (i : Nat) (flag next : String), args[i]? = some flag ∧
      '=' ∉ flag.toList ∧ isSecretFlag flag.toList = true ∧ args[i + 1]? = some next ∧
      next ≠ hidden ∧ (tokens false args)[i + 1]? = some next ∧
      commandLine args = "app --token [REDACTED] hunter2" :=
  ⟨["app", "--token", "--password", "hunter2"], 2, "--password", "hunter2", rfl,
    by decide +kernel, by decide +kernel, rfl, by decide +kernel, by decide +kernel,
    by decide +kernel⟩

end Flags

end Sanitizer

end LogWatch
