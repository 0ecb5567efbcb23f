import HydraTerm.Protocol.TerminalLink
import HydraTerm.Shell.Names

/-!
# Secrets in launch arguments

Before the arguments of a launch are stored, one pass over them replaces what looks like a secret:
what follows a secret name and `=`, the token after a flag with a secret name, and a bare token that
looks like a credential. The pass remembers only that the token before was such a flag. So a flag
that stands where a value is expected hides itself and no longer its own value.
-/

namespace HydraTerm.Shell

open List

def placeholder : List Char := "<redacted>".toList

def secretFlagSubstrings : List (List Char) :=
  ["key", "token", "secret", "password", "passwd", "pwd", "auth", "credential", "apikey", "api-key",
    "access-key", "private", "bearer", "session"].map String.toList

def flagNameIsSecret (name : List Char) : Bool :=
  let lname := (name.dropWhile (· = '-')).map Char.toLower
  secretFlagSubstrings.any fun part => part <:+: lname

def valueLooksSecret (value : List Char) : Bool :=
  ["sk-", "pk-", "ghp_", "gho_", "xoxb-", "xoxp-", "AKIA", "Bearer "].any
      (fun start => start.toList.isPrefixOf value) ||
    24 ≤ Protocol.utf8Length value && !value.any isWhiteSpace && value.any Char.isAlpha &&
      value.any Char.isDigit

/-- The name before the first `=` of a token, if it is a secret one. -/
def inlineName (tok : List Char) : Option (List Char) :=
  let name := tok.takeWhile (· ≠ '=')
  if '=' ∈ tok ∧ flagNameIsSecret name then some name else none

/-- `RedactedLaunch` with the memory of the pass. -/
structure RedactedLaunch where
  argv : List (List Char)
  redactedAny : Bool
  redactNext : Bool

/-- What the pass does with one token. -/
def redactToken (out : RedactedLaunch) (tok : List Char) : RedactedLaunch :=
  if out.redactNext then ⟨out.argv ++ [placeholder], true, false⟩
  else
    match inlineName tok with
    | some name => ⟨out.argv ++ [name ++ '=' :: placeholder], true, false⟩
    | none =>
      if tok.head? = some '-' ∧ flagNameIsSecret tok then ⟨out.argv ++ [tok], out.redactedAny, true⟩
      else if tok.head? ≠ some '-' ∧ valueLooksSecret tok then ⟨out.argv ++ [placeholder], true, false⟩
      else ⟨out.argv ++ [tok], out.redactedAny, false⟩

def redactArgs (argv : List (List Char)) : RedactedLaunch := argv.foldl redactToken ⟨[], false, false⟩

/-! ## Arguments that differ in secrets -/

/-- A secret-named flag whose value is the next token. -/
def TakesNext (tok : List Char) : Prop :=
  inlineName tok = none ∧ tok.head? = some '-' ∧ flagNameIsSecret tok

/-- A token that is no flag and looks like a credential. -/
def IsBareSecret (tok : List Char) : Prop := tok.head? ≠ some '-' ∧ valueLooksSecret tok

/-- Two tokens that differ at most in the value of one secret name, or are bare secrets. -/
inductive SameButSecret : List Char → List Char → Prop
  | same (tok : List Char) : SameButSecret tok tok
  | inline {tok other name : List Char} :
      inlineName tok = some name → inlineName other = some name → SameButSecret tok other
  | bare {tok other : List Char} : IsBareSecret tok → IsBareSecret other → SameButSecret tok other

/-- Both tokens are flags whose value is the next token. -/
def BothTakeNext (pair : List Char × List Char) : Prop := TakesNext pair.1 ∧ TakesNext pair.2

/-- Two lists of arguments that differ only in secret values. The first parameter says that the tokens
before are secret-named flags, after which any two tokens may stand. -/
inductive DifferInSecrets : Prop → List (List Char) → List (List Char) → Prop
  | nil {named : Prop} : DifferInSecrets named [] []
  | cons {named : Prop} {tok other : List Char} {argv others : List (List Char)} :
      named ∨ SameButSecret tok other → DifferInSecrets (BothTakeNext (tok, other)) argv others →
      DifferInSecrets named (tok :: argv) (other :: others)

/-- What is stored of a token that does not stand where a value is expected. -/
def ownText (tok : List Char) : List Char :=
  match inlineName tok with
  | some name => name ++ '=' :: placeholder
  | none => if tok.head? ≠ some '-' ∧ valueLooksSecret tok then placeholder else tok

instance : DecidablePred TakesNext := fun _ => inferInstanceAs (Decidable (_ ∧ _ ∧ _))

/-- The number of secret-named flags in a row at the end of a list. -/
def trailingFlags (argv : List (List Char)) : Nat := (argv.reverse.takeWhile TakesNext).length

/-- At each place the two tokens have the same text of their own, or an odd number of secret-named flags
stands right before it: the last of them then expects a value, since every second one is a value. -/
def HideAlike (argv others : List (List Char)) : Prop :=
  ∀ place pair, (argv.zip others)[place]? = some pair →
    Odd (trailingFlags (argv.take place)) ∨ ownText pair.1 = ownText pair.2

variable {argv others : List (List Char)} {tok other : List Char}

theorem DifferInSecrets.length_eq {named : Prop} (differ : DifferInSecrets named argv others) :
    argv.length = others.length := by
  induction differ with
  | nil => rfl
  | cons _ _ ih => rw [length_cons, length_cons, ih]

theorem redactToken_eq (out : RedactedLaunch) (tok : List Char) :
    (redactToken out tok).argv = out.argv ++ [if out.redactNext then placeholder else ownText tok] ∧
      ((redactToken out tok).redactNext = true ↔ ¬out.redactNext ∧ TakesNext tok) := by
  unfold redactToken ownText TakesNext
  grind

theorem redactArgs_concat (argv : List (List Char)) (tok : List Char) :
    redactArgs (argv ++ [tok]) = redactToken (redactArgs argv) tok :=
  foldl_concat ..

theorem trailingFlags_concat (argv : List (List Char)) (tok : List Char) :
    trailingFlags (argv ++ [tok]) = if TakesNext tok then trailingFlags argv + 1 else 0 := by
  rw [trailingFlags, reverse_concat, takeWhile_cons]
  by_cases takes : TakesNext tok <;> simp [takes, trailingFlags]

/-- The pass expects a value after an odd number of secret-named flags. -/
theorem redactNext_iff (argv : List (List Char)) :
    (redactArgs argv).redactNext = true ↔ Odd (trailingFlags argv) := by
  induction argv using reverseRecOn with
  | nil => decide
  | append_singleton argv tok ih =>
    rw [redactArgs_concat, (redactToken_eq _ _).2, ih, trailingFlags_concat]
    by_cases takes : TakesNext tok <;> simp [takes, Nat.odd_add_one]

/-- The text of a token tells whether it is a secret-named flag: what is kept of a name and its value is
read as a name again, and a placeholder is no flag. -/
theorem takesNext_of_ownText (same : ownText tok = ownText other) (takes : TakesNext tok) :
    TakesNext other := by
  obtain ⟨noName, isFlag, -⟩ := id takes
  have isOwn : ownText tok = tok := by simp [ownText, noName, isFlag]
  rw [isOwn] at same
  cases found : inlineName other with
  | some name =>
    have isName : other.takeWhile (· ≠ '=') = name ∧ flagNameIsSecret name := by
      grind [inlineName]
    have noEquals (char : Char) (isIn : char ∈ name) : decide (char ≠ '=') = true := by
      rw [← isName.1] at isIn
      exact @mem_takeWhile_imp _ (· ≠ '=') other char isIn
    have reread : inlineName (name ++ '=' :: placeholder) = some name := by
      rw [inlineName, takeWhile_append_of_pos noEquals]
      simp [isName.2]
    have isText : ownText other = name ++ '=' :: placeholder := by rw [ownText, found]
    simp [same, isText, reread] at noName
  | none =>
    have isText : ownText other =
        if other.head? ≠ some '-' ∧ valueLooksSecret other then placeholder else other := by
      rw [ownText, found]
    rw [isText] at same
    split_ifs at same with isBare
    · rw [same] at isFlag
      exact absurd isFlag (by decide)
    · exact same ▸ takes

theorem hideAlike_concat (sameLength : argv.length = others.length) :
    HideAlike (argv ++ [tok]) (others ++ [other]) ↔ HideAlike argv others ∧
      (Odd (trailingFlags argv) ∨ ownText tok = ownText other) := by
  unfold HideAlike
  rw [zip_append sameLength]
  constructor
  · intro alike
    refine ⟨fun place pair found => ?_, ?_⟩
    · have below := (List.getElem?_eq_some_iff.mp found).1
      have old := alike place pair (by rwa [getElem?_append_left below])
      rwa [take_append_of_le_length (by grind)] at old
    · simpa [sameLength] using alike argv.length (tok, other) (by simp [sameLength])
  · rintro ⟨alike, last⟩ place pair found
    by_cases below : place < argv.length
    · rw [take_append_of_le_length below.le]
      exact alike place pair (by grind)
    · obtain ⟨rfl, rfl⟩ : place = argv.length ∧ pair = (tok, other) := by grind
      simpa using last

/-- The stored arguments are the same exactly if the lists hide alike, and the pass then expects a value
after both or after none. -/
theorem redactArgs_argv_iff (sameLength : argv.length = others.length) :
    ((redactArgs argv).argv = (redactArgs others).argv ↔ HideAlike argv others) ∧
      (HideAlike argv others →
        ((redactArgs argv).redactNext = true ↔ (redactArgs others).redactNext = true)) := by
  induction argv using reverseRecOn generalizing others with
  | nil =>
    obtain rfl := length_eq_zero_iff.mp sameLength.symm
    exact ⟨iff_of_true rfl (by simp [HideAlike]), fun _ => Iff.rfl⟩
  | append_singleton argv tok ih =>
    obtain ⟨others, other, rfl⟩ : ∃ before last, others = before ++ [last] := by
      refine ⟨others.dropLast, others.getLast ?_, (dropLast_append_getLast _).symm⟩
      rintro rfl
      simp at sameLength
    rw [length_append, length_append] at sameLength
    have sameLength := Nat.add_right_cancel sameLength
    obtain ⟨sameArgv, sameNext⟩ := ih sameLength
    obtain ⟨isArgv, isNext⟩ := redactToken_eq (redactArgs argv) tok
    obtain ⟨otherArgv, otherNext⟩ := redactToken_eq (redactArgs others) other
    rw [redactArgs_concat, redactArgs_concat, hideAlike_concat sameLength, ← redactNext_iff, isArgv,
      otherArgv, isNext, otherNext, append_singleton_inj, sameArgv]
    have alike : ownText tok = ownText other → (TakesNext tok ↔ TakesNext other) := fun same =>
      ⟨takesNext_of_ownText same, takesNext_of_ownText same.symm⟩
    grind

/-- Where two lists differ in secret values only, the stored arguments are the same exactly if the lists
hide alike: secret values do not reach them where no flag stands as the value of another one and no bare
secret has a secret name before an `=`. -/
theorem redactArgs_eq_iff (differ : DifferInSecrets False argv others) :
    (redactArgs argv).argv = (redactArgs others).argv ↔ HideAlike argv others :=
  (redactArgs_argv_iff differ.length_eq).1

/-- The values of two flags and a bare key are hidden, although a third flag stands in the place of one. -/
theorem redactArgs_eq_keys :
    (redactArgs (["--token", "--password", "--key", "a", "sk-1"].map String.toList)).argv =
      (redactArgs (["--token", "b", "--key", "--c", "sk-2"].map String.toList)).argv := by
  have flags : BothTakeNext ("--token".toList, "--token".toList) ∧
      BothTakeNext ("--key".toList, "--key".toList) :=
    ⟨⟨by decide, by decide⟩, by decide, by decide⟩
  have bare : IsBareSecret "sk-1".toList ∧ IsBareSecret "sk-2".toList := by
    simp only [IsBareSecret]; decide
  refine (redactArgs_eq_iff (.cons (.inr (.same _)) (.cons (.inl flags.1) (.cons (.inr (.same _))
    (.cons (.inl flags.2) (.cons (.inr (.bare bare.1 bare.2)) .nil)))))).mpr ?_
  rintro (_ | _ | _ | _ | _ | _) pair found <;> cases found <;> decide

/-- A password is stored when its flag stands where the value of another flag is expected. -/
theorem redactArgs_shows_password :
    DifferInSecrets False ["--token".toList, "--password".toList, "a".toList]
        ["--token".toList, "--password".toList, "b".toList] ∧
      (redactArgs ["--token".toList, "--password".toList, "a".toList]).argv ≠
        (redactArgs ["--token".toList, "--password".toList, "b".toList]).argv := by
  have flags : BothTakeNext ("--password".toList, "--password".toList) := ⟨by decide, by decide⟩
  exact ⟨.cons (.inr (.same _)) (.cons (.inr (.same _)) (.cons (.inl flags) .nil)), by decide⟩

end HydraTerm.Shell
