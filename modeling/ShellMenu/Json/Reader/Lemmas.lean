import ShellMenu.Json.Reader

/-
  Every reader leaves less than it was given, and so the fuel of `readDocument` never runs out:
  more of it changes nothing.
-/

namespace ShellMenu.Json

theorem bind_eq_ok {α β : Type} {first : Except ReadError α} {next : α → Except ReadError β}
    {result : β} (ok : (first >>= next) = .ok result) :
    ∃ value, first = .ok value ∧ next value = .ok result := by
  cases first with
  | error error => cases ok
  | ok value => exact ⟨value, rfl, ok⟩

theorem bind_congr_ok {α β : Type} {first : Except ReadError α}
    {next other : α → Except ReadError β}
    (same : ∀ value, first = .ok value → next value = other value) :
    (first >>= next) = (first >>= other) := by
  cases first with
  | error error => rfl
  | ok value => exact same value rfl

/-! ## What is left -/

theorem length_dropWhile_le (drop : Char → Bool) (chars : List Char) :
    (chars.dropWhile drop).length ≤ chars.length := by
  induction chars with
  | nil => simp
  | cons c rest ih =>
      simp only [List.dropWhile_cons]
      split
      · simp only [List.length_cons]
        omega
      · simp

theorem length_skipSpace_le (chars : List Char) : (skipSpace chars).length ≤ chars.length :=
  length_dropWhile_le isSpace chars

theorem length_readUnits {chars rest : List Char} {units : List Nat}
    (read : readUnits chars = .ok (units, rest)) : rest.length < chars.length := by
  fun_induction readUnits chars generalizing units rest <;> try (simp [refuse] at read; done)
  case case2 after =>
    simp only [Except.ok.injEq, Prod.mk.injEq] at read
    simp [← read.2]
  all_goals
    next ih =>
      obtain ⟨⟨_, left⟩, inner, same⟩ := bind_eq_ok read
      have shorter := ih inner
      simp only [pure, Except.pure, Except.ok.injEq, Prod.mk.injEq] at same
      simp only [List.length_cons, ← same.2] at shorter ⊢
      omega

theorem length_readString {chars rest : List Char} {value : String}
    (read : readString chars = .ok (value, rest)) : rest.length < chars.length := by
  unfold readString at read
  split at read
  · next units left inner =>
      simp only [Except.ok.injEq, Prod.mk.injEq] at read
      exact read.2 ▸ length_readUnits inner
  · simp [refuse] at read
  · simp at read

theorem length_wholePart? {chars digits rest : List Char}
    (read : wholePart? chars = some (digits, rest)) : rest.length < chars.length := by
  cases chars with
  | nil => simp [wholePart?] at read
  | cons c after =>
      simp only [wholePart?] at read
      split at read
      · simp only [Option.some.injEq, Prod.mk.injEq] at read
        simp [← read.2]
      · split at read
        · simp only [Option.some.injEq, Prod.mk.injEq] at read
          have shorter := length_dropWhile_le isDigit after
          simp only [List.length_cons, ← read.2]
          omega
        · simp at read

theorem length_fractionPart (chars : List Char) :
    (fractionPart chars).2.length ≤ chars.length := by
  unfold fractionPart
  split
  · next rest =>
      split
      · exact Nat.le_refl _
      · have shorter := length_dropWhile_le isDigit rest
        simp only [List.length_cons]
        omega
  · exact Nat.le_refl _

theorem length_exponentDigits? {negative : Bool} {chars rest : List Char} {exponent : Int}
    (read : exponentDigits? negative chars = some (exponent, rest)) :
    rest.length ≤ chars.length := by
  unfold exponentDigits? at read
  split at read
  · simp at read
  · simp only [Option.some.injEq, Prod.mk.injEq] at read
    exact read.2 ▸ length_dropWhile_le isDigit chars

theorem length_exponentPart? {chars rest : List Char} {exponent : Int}
    (read : exponentPart? chars = some (exponent, rest)) : rest.length ≤ chars.length := by
  unfold exponentPart? at read
  split at read
  · split at read
    · split at read
      all_goals
        have shorter := length_exponentDigits? read
        simp only [List.length_cons] at shorter ⊢
        omega
    · simp at read
  · simp at read

theorem length_magnitude? {negative : Bool} {chars rest : List Char} {value : Json}
    (read : magnitude? negative chars = some (value, rest)) : rest.length < chars.length := by
  unfold magnitude? at read
  split at read
  · simp at read
  · next whole after inner =>
      have wholeShorter := length_wholePart? inner
      have fractionShorter := length_fractionPart after
      generalize fractionPart after = part at read fractionShorter
      obtain ⟨fraction, left⟩ := part
      simp only at read fractionShorter
      split at read
      · next exponentRead =>
          have exponentShorter := length_exponentPart? exponentRead
          simp only [Option.some.injEq, Prod.mk.injEq] at read
          rw [← read.2]
          omega
      · split at read
        all_goals
          simp only [Option.some.injEq, Prod.mk.injEq] at read
          rw [← read.2]
          omega

theorem length_number? {chars rest : List Char} {value : Json}
    (read : number? chars = some (value, rest)) : rest.length < chars.length := by
  unfold number? at read
  split at read
  · have shorter := length_magnitude? read
    simp only [List.length_cons]
    omega
  · exact length_magnitude? read

theorem length_word? {chars rest : List Char} {value : Json}
    (read : word? chars = some (value, rest)) : rest.length < chars.length := by
  unfold word? at read
  simp only [Option.map_eq_some_iff] at read
  obtain ⟨word, found, same⟩ := read
  have start := List.find?_some found
  have member := List.mem_of_find?_eq_some found
  have long : 0 < word.1.toList.length := by
    simp only [words, List.mem_cons, List.not_mem_nil, or_false] at member
    rcases member with h | h | h | h | h | h <;> subst h <;> decide
  have within := (List.isPrefixOf_iff_prefix.1 start).length_le
  simp only [Prod.mk.injEq] at same
  rw [← same.2, List.length_drop, ← String.length_toList]
  omega

theorem length_readScalar {chars rest : List Char} {value : Json}
    (read : readScalar chars = .ok (value, rest)) : rest.length < chars.length := by
  unfold readScalar at read
  split at read
  · next found word =>
      simp only [Except.ok.injEq] at read
      exact length_word? (read ▸ word)
  · split at read
    · next number =>
        split at read
        · simp only [Except.ok.injEq, Prod.mk.injEq] at read
          exact read.2 ▸ length_number? number
        · simp at read
    · simp [refuse] at read

/-- Whatever the fuel, a value, the members of an object and the items of an array all take at
least one character. -/
theorem length_read (fuel : Nat) :
    (∀ {chars rest : List Char} {value : Json},
      readValue fuel chars = .ok (value, rest) → rest.length < chars.length) ∧
    (∀ {chars rest : List Char} {members : List (String × Json)},
      readMembers fuel chars = .ok (members, rest) → rest.length < chars.length) ∧
    (∀ {chars rest : List Char} {items : List Json},
      readItems fuel chars = .ok (items, rest) → rest.length < chars.length) := by
  induction fuel with
  | zero => simp [readValue, readMembers, readItems, refuse]
  | succ fuel ih =>
      obtain ⟨valueShorter, membersShorter, itemsShorter⟩ := ih
      refine ⟨?_, ?_, ?_⟩
      · intro chars rest value read
        unfold readValue at read
        split at read
        · obtain ⟨⟨text, left⟩, inner, same⟩ := bind_eq_ok read
          have shorter := length_readString inner
          simp only [pure, Except.pure, Except.ok.injEq, Prod.mk.injEq] at same
          simp only [List.length_cons, ← same.2]
          omega
        · next after =>
            have space := length_skipSpace_le after
            split at read
            · next left closing =>
                simp only [Except.ok.injEq, Prod.mk.injEq] at read
                simp only [closing, List.length_cons, read.2] at space ⊢
                omega
            · obtain ⟨⟨members, left⟩, inner, same⟩ := bind_eq_ok read
              have shorter := membersShorter inner
              simp only [pure, Except.pure, Except.ok.injEq, Prod.mk.injEq] at same
              simp only [List.length_cons, ← same.2]
              omega
        · next after =>
            have space := length_skipSpace_le after
            split at read
            · next left closing =>
                simp only [Except.ok.injEq, Prod.mk.injEq] at read
                simp only [closing, List.length_cons, read.2] at space ⊢
                omega
            · obtain ⟨⟨items, left⟩, inner, same⟩ := bind_eq_ok read
              have shorter := itemsShorter inner
              simp only [pure, Except.pure, Except.ok.injEq, Prod.mk.injEq] at same
              simp only [List.length_cons, ← same.2]
              omega
        · exact length_readScalar read
      · intro chars rest members read
        unfold readMembers at read
        split at read
        · next after =>
            obtain ⟨⟨name, left⟩, nameRead, read⟩ := bind_eq_ok read
            have nameShorter := length_readString nameRead
            have space := length_skipSpace_le left
            simp only at read
            split at read
            · next colon spaced =>
                obtain ⟨⟨value, left⟩, valueRead, read⟩ := bind_eq_ok read
                have shorter := valueShorter valueRead
                have colonSpace := length_skipSpace_le colon
                have valueSpace := length_skipSpace_le left
                simp only [spaced, List.length_cons] at space
                simp only at read
                split at read
                · next closing =>
                    simp only [Except.ok.injEq, Prod.mk.injEq] at read
                    simp only [closing, List.length_cons, read.2] at valueSpace ⊢
                    omega
                · next comma spacedComma =>
                    obtain ⟨⟨others, left⟩, othersRead, same⟩ := bind_eq_ok read
                    have othersShorter := membersShorter othersRead
                    have commaSpace := length_skipSpace_le comma
                    simp only [pure, Except.pure, Except.ok.injEq, Prod.mk.injEq] at same
                    simp only [spacedComma, List.length_cons, ← same.2] at valueSpace ⊢
                    omega
                · simp [refuse] at read
            · simp [refuse] at read
        · simp [refuse] at read
      · intro chars rest items read
        unfold readItems at read
        obtain ⟨⟨value, left⟩, valueRead, read⟩ := bind_eq_ok read
        have shorter := valueShorter valueRead
        have valueSpace := length_skipSpace_le left
        simp only at read
        split at read
        · next closing =>
            simp only [Except.ok.injEq, Prod.mk.injEq] at read
            simp only [closing, List.length_cons, read.2] at valueSpace ⊢
            omega
        · next comma spacedComma =>
            obtain ⟨⟨others, left⟩, othersRead, same⟩ := bind_eq_ok read
            have othersShorter := itemsShorter othersRead
            have commaSpace := length_skipSpace_le comma
            simp only [pure, Except.pure, Except.ok.injEq, Prod.mk.injEq] at same
            simp only [spacedComma, List.length_cons, ← same.2] at valueSpace ⊢
            omega
        · simp [refuse] at read

/-! ## Enough fuel -/

/-- One more unit of fuel changes nothing where there is enough. -/
theorem read_succ (fuel : Nat) :
    (∀ chars : List Char, 2 * chars.length < fuel →
      readValue (fuel + 1) chars = readValue fuel chars) ∧
    (∀ chars : List Char, 2 * chars.length < fuel →
      readMembers (fuel + 1) chars = readMembers fuel chars) ∧
    (∀ chars : List Char, 2 * chars.length + 1 < fuel →
      readItems (fuel + 1) chars = readItems fuel chars) := by
  induction fuel with
  | zero => exact ⟨fun _ enough => by omega, fun _ enough => by omega, fun _ enough => by omega⟩
  | succ fuel ih =>
      obtain ⟨sameValue, sameMembers, sameItems⟩ := ih
      refine ⟨?_, ?_, ?_⟩
      · intro chars enough
        unfold readValue
        split
        · rfl
        · next after =>
            have space := length_skipSpace_le after
            simp only [List.length_cons] at enough
            split
            · rfl
            · rw [sameMembers _ (by omega)]
        · next after =>
            have space := length_skipSpace_le after
            simp only [List.length_cons] at enough
            split
            · rfl
            · rw [sameItems _ (by omega)]
        · rfl
      · intro chars enough
        unfold readMembers
        split
        · next after =>
            simp only [List.length_cons] at enough
            refine bind_congr_ok fun ⟨name, left⟩ nameRead => ?_
            have nameShorter := length_readString nameRead
            have space := length_skipSpace_le left
            simp only
            split
            · next colon spaced =>
                have colonSpace := length_skipSpace_le colon
                simp only [spaced, List.length_cons] at space
                rw [sameValue _ (by omega)]
                refine bind_congr_ok fun ⟨value, left⟩ valueRead => ?_
                have shorter := (length_read _).1 valueRead
                have valueSpace := length_skipSpace_le left
                simp only
                split
                · rfl
                · next comma spacedComma =>
                    have commaSpace := length_skipSpace_le comma
                    simp only [spacedComma, List.length_cons] at valueSpace
                    rw [sameMembers _ (by omega)]
                · rfl
            · rfl
        · rfl
      · intro chars enough
        unfold readItems
        rw [sameValue _ (by omega)]
        refine bind_congr_ok fun ⟨value, left⟩ valueRead => ?_
        have shorter := (length_read _).1 valueRead
        have valueSpace := length_skipSpace_le left
        simp only
        split
        · rfl
        · next comma spacedComma =>
            have commaSpace := length_skipSpace_le comma
            simp only [spacedComma, List.length_cons] at valueSpace
            rw [sameItems _ (by omega)]
        · rfl

theorem readValue_add {chars : List Char} {fuel : Nat} (enough : 2 * chars.length < fuel)
    (more : Nat) : readValue (fuel + more) chars = readValue fuel chars := by
  induction more with
  | zero => rfl
  | succ more ih => rw [← Nat.add_assoc, (read_succ _).1 _ (by omega), ih]

end ShellMenu.Json
