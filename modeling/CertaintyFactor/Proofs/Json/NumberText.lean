import CertaintyFactor.Proofs.Json.Number
import CertaintyFactor.Proofs.Json.NumberRange
import CertaintyFactor.Proofs.Json.Written

/-!
# Reading numbers that were written

An integer of 64 bits is read as itself. Every finite binary64 number is read as one, though not
always as the same: `Binary64.reread` is what becomes of it.
-/

set_option autoImplicit false

namespace CertaintyFactor.Json.Number

open Reader Binary64

/-! ## Significands -/

/-- A significand takes digits from the left while they fit, and leaves the others. -/
theorem take_spec {value : Nat} (hvalue : value ≤ maxSignificand) (row : List Char) :
    (significand.take value row).1 ≤ maxSignificand ∧
      ∃ taken, row = taken ++ (significand.take value row).2 ∧
        (significand.take value row).1 = 10 ^ taken.length * value + Decimal.ofDigits taken := by
  induction row generalizing value with
  | nil => exact ⟨hvalue, [], rfl, by simp [significand.take, Decimal.ofDigits]⟩
  | cons c row ih =>
    rw [significand.take]
    split
    · exact ⟨hvalue, [], rfl, by simp [Decimal.ofDigits]⟩
    · next hfits =>
      obtain ⟨hle, taken, htaken, hread⟩ := ih (Nat.not_lt.1 hfits)
      refine ⟨hle, c :: taken, by rw [List.cons_append, ← htaken], ?_⟩
      rw [hread, Decimal.ofDigits_cons, List.length_cons, Nat.pow_succ]
      ring

/-- Digits that fit are all taken. -/
theorem take_all {value : Nat} {row : List Char}
    (h : 10 ^ row.length * value + Decimal.ofDigits row ≤ maxSignificand) :
    significand.take value row = (10 ^ row.length * value + Decimal.ofDigits row, []) := by
  induction row generalizing value with
  | nil => simp [significand.take, Decimal.ofDigits]
  | cons c row ih =>
    have hsplit : 10 ^ (c :: row).length * value + Decimal.ofDigits (c :: row) =
        10 ^ row.length * (10 * value + Decimal.digitValue c) + Decimal.ofDigits row := by
      rw [Decimal.ofDigits_cons, List.length_cons, Nat.pow_succ]
      ring
    have hfits : 10 * value + Decimal.digitValue c ≤ maxSignificand := by
      have hle : 10 * value + Decimal.digitValue c ≤
          10 ^ row.length * (10 * value + Decimal.digitValue c) :=
        Nat.le_mul_of_pos_left _ (Nat.pow_pos (by decide))
      omega
    rw [hsplit] at h ⊢
    rw [significand.take, if_neg (Nat.not_lt.2 hfits), ih h]

/-! ## Numbers by their parts -/

theorem read?_digitRun_append {row rest : List Char} (hrow : ∀ c ∈ row, c.isDigit)
    (hrest : ∀ c ∈ rest.head?, c.isDigit = false) :
    digitRun.read? (row ++ rest) = some (row, rest) := by
  rw [read?_digitRun, Decimal.takeWhile_isDigit hrow hrest, Decimal.dropWhile_isDigit hrow hrest]

/-- A row of digits as numbers begin with it: a zero stands in front only alone. -/
structure IsWhole (row : List Char) : Prop where
  ne_nil : row ≠ []
  isDigit : ∀ c ∈ row, c.isDigit
  head_ne : row.head? = some '0' → row.length = 1

/-- Once the digits before a point are read, what follows them is. -/
theorem read?_unsigned_whole {row rest : List Char} (hrow : IsWhole row)
    (hrest : ∀ c ∈ rest.head?, c.isDigit = false) (negative : Bool) :
    (unsigned negative).read? (row ++ rest) =
      (afterDigits negative (significand.take 0 row).1 (significand.take 0 row).2).read? rest := by
  rw [read?_unsigned, read?_bind, read?_digitRun_append hrow.isDigit hrest, Option.bind_some]
  have hform : (row.isEmpty || (row.head? = some '0' && 1 < row.length)) = false := by
    by_cases hzero : row.head? = some '0'
    · simp [hrow.ne_nil, hrow.head_ne hzero]
    · simp [hrow.ne_nil, hzero]
  simp [hform]

/-- An exponent is read with its sign. -/
theorem read?_withExponent_text {row rest : List Char} (hne : row ≠ [])
    (hrow : ∀ c ∈ row, c.isDigit) (hrest : Delimits rest) (negative down : Bool) (value : Nat)
    (start : Int) :
    (withExponent negative value start).read?
        ('e' :: (if down then '-' else '+') :: (row ++ rest)) =
      (ofExponent negative value start down row).read? rest := by
  rw [read?_withExponent]
  have hsign : signMark.read? ((if down then '-' else '+') :: (row ++ rest)) =
      some (down, row ++ rest) := by
    cases down <;> rfl
  simp only [read?_bind, read?_skip, List.tail_cons, Option.bind_some, hsign,
    read?_digitRun_append hrow hrest.isDigit]
  simp [hne]

/-- A fraction is read with what follows it. -/
theorem read?_withFraction_text {row rest : List Char} (hne : row ≠ [])
    (hrow : ∀ c ∈ row, c.isDigit) (hrest : ∀ c ∈ rest.head?, c.isDigit = false) (negative : Bool)
    (value : Nat) (start : Int) :
    (withFraction negative value start).read? ('.' :: (row ++ rest)) =
      (afterFraction negative (significand.take value row).1
        (start - (row.length - (significand.take value row).2.length : Nat))).read? rest := by
  rw [read?_withFraction]
  simp only [read?_bind, read?_skip, List.tail_cons, Option.bind_some,
    read?_digitRun_append hrow hrest]
  simp [hne]

/-- A number without exponent ends where the text may go on. -/
theorem read?_afterFraction_end {rest : List Char} (hrest : Delimits rest) (negative : Bool)
    (value : Nat) (exponent : Int) :
    (afterFraction negative value exponent).read? rest =
      (quick? negative value exponent).map (·, rest) := by
  rw [← read?_ofParts]
  cases rest with
  | nil => rfl
  | cons c rest =>
    obtain ⟨-, -, he, hE⟩ := hrest c rfl
    simp only [afterFraction, read?_bind, read?_first?, List.head?_cons, Option.bind_some]
    split
    · next h => exact absurd (Option.some.inj h) he
    · next h => exact absurd (Option.some.inj h) hE
    · rfl

/-- A number with an exponent goes on with it. -/
theorem read?_afterFraction_exponent (negative : Bool) (value : Nat) (exponent : Int)
    (rest : List Char) :
    (afterFraction negative value exponent).read? ('e' :: rest) =
      (withExponent negative value exponent).read? ('e' :: rest) :=
  rfl

theorem read?_afterDigits_point (negative : Bool) (value : Nat) (left rest : List Char) :
    (afterDigits negative value left).read? ('.' :: rest) =
      ((withFraction negative value left.length).read? ('.' :: rest)).map
        fun p => (.float p.1, p.2) := by
  have hpoint : (afterDigits negative value left).read? ('.' :: rest) =
      (Json.float <$> withFraction negative value left.length).read? ('.' :: rest) := by
    rw [map_eq_pure_bind]
    rfl
  rw [hpoint, read?_map]

theorem read?_afterDigits_exponent (negative : Bool) (value : Nat) (left rest : List Char) :
    (afterDigits negative value left).read? ('e' :: rest) =
      ((withExponent negative value left.length).read? ('e' :: rest)).map
        fun p => (.float p.1, p.2) := by
  have hexponent : (afterDigits negative value left).read? ('e' :: rest) =
      (Json.float <$> withExponent negative value left.length).read? ('e' :: rest) := by
    rw [map_eq_pure_bind]
    rfl
  rw [hexponent, read?_map]

/-- Digits that all fit and have neither point nor exponent after them are an integer, or a number
below all integers. -/
theorem read?_afterDigits_end {rest : List Char} (hrest : Delimits rest) (negative : Bool)
    (value : Nat) :
    (afterDigits negative value []).read? rest =
      some (if !negative then .integer value
        else if value = 0 || 0x8000000000000000 < value then .float (-Binary64.ofNat value)
        else .integer (-value), rest) := by
  have hplain : (afterDigits negative value []).read? rest =
      (if !negative then return .integer value
        else if value = 0 || 0x8000000000000000 < value then return .float (-Binary64.ofNat value)
        else return .integer (-value) : Reader Json).read? rest := by
    cases rest with
    | nil => rfl
    | cons c rest =>
      obtain ⟨-, hpoint, he, hE⟩ := hrest c rfl
      simp only [afterDigits, read?_bind, read?_first?, List.head?_cons, Option.bind_some]
      split
      · next h => exact absurd (Option.some.inj h) hpoint
      · next h => exact absurd (Option.some.inj h) he
      · next h => exact absurd (Option.some.inj h) hE
      · rfl
  rw [hplain]
  split
  · rfl
  · split <;> rfl

/-- Without a sign a number begins with a digit. -/
theorem read?_number_of_isDigit {c : Char} (hc : c.isDigit) (text : List Char) :
    number.read? (c :: text) = (unsigned false).read? (c :: text) := by
  simp only [number, read?_bind, read?_first?, List.head?_cons, Option.bind_some]
  split
  · next h =>
    obtain rfl := Option.some.inj h
    cases hc
  · rfl

theorem read?_number_minus (text : List Char) :
    number.read? ('-' :: text) = (unsigned true).read? text :=
  rfl

/-! ## Integers -/

theorem isWhole_toDigits (n : Nat) : IsWhole (Decimal.toDigits n) where
  ne_nil := Decimal.toDigits_ne_nil n
  isDigit := fun _ => Decimal.isDigit_of_mem_toDigits
  head_ne := fun hhead => by
    rcases Nat.eq_zero_or_pos n with rfl | hpos
    · rfl
    · exact absurd hhead (Decimal.head?_toDigits (Nat.pos_iff_ne_zero.1 hpos))

theorem isWhole_zero : IsWhole ['0'] :=
  isWhole_toDigits 0

/-- An integer of 64 bits, with a sign or without, is read as it was written. -/
theorem read?_integerText {n : Int} (hmin : minInt64 ≤ n) (hmax : n ≤ maxSignificand)
    {rest : List Char} (hrest : Delimits rest) :
    number.read? ((Decimal.integerText n).toList ++ rest) = some (.integer n, rest) := by
  have hread (m : Nat) (hm : m ≤ maxSignificand) (negative : Bool) :
      (unsigned negative).read? (Decimal.toDigits m ++ rest) =
        (afterDigits negative m []).read? rest := by
    have htake : significand.take 0 (Decimal.toDigits m) = (m, []) := by
      rw [take_all (by simpa using hm), Nat.mul_zero, Nat.zero_add, Decimal.ofDigits_toDigits]
    rw [read?_unsigned_whole (isWhole_toDigits m) hrest.isDigit, htake]
  cases n with
  | ofNat m =>
    have hm : m ≤ maxSignificand := by simpa using hmax
    have htext : (Decimal.integerText (.ofNat m)).toList = Decimal.toDigits m := by
      simp [Decimal.integerText]
    obtain ⟨c, row, hrow⟩ := List.exists_cons_of_ne_nil (Decimal.toDigits_ne_nil m)
    have hc : c.isDigit := Decimal.isDigit_of_mem_toDigits (n := m) (hrow ▸ List.mem_cons_self)
    rw [htext, hrow, List.cons_append, read?_number_of_isDigit hc, ← List.cons_append, ← hrow,
      hread m hm, read?_afterDigits_end hrest]
    rfl
  | negSucc m =>
    have hm : m + 1 ≤ 0x8000000000000000 := by
      simp only [minInt64] at hmin
      omega
    have htext : (Decimal.integerText (.negSucc m)).toList = '-' :: Decimal.toDigits (m + 1) := by
      simp [Decimal.integerText]
    have hinteger : (m + 1 = 0 || 0x8000000000000000 < m + 1) = false := by
      simpa using hm
    have hvalue : -((m + 1 : Nat) : Int) = .negSucc m := rfl
    rw [htext, List.cons_append, read?_number_minus,
      hread (m + 1) (Nat.le_trans hm (by decide)), read?_afterDigits_end hrest, hinteger, hvalue]
    rfl

/-! ## Binary64 numbers -/

/-- The text is taken as a number. -/
def ReadsText (negative : Bool) (text : List Char) (x : Binary64) : Prop :=
  ∀ rest, Delimits rest → (unsigned negative).read? (text ++ rest) = some (.float x, rest)

/-- The text is taken as some number. -/
def IsNumberText (negative : Bool) (text : List Char) : Prop :=
  ∃ x, ReadsText negative text x

/-- Digits around a point are read as one significand, as far as they fit. -/
theorem readsText_point {whole part : List Char} (hwhole : IsWhole whole)
    (hfits : Decimal.ofDigits whole ≤ maxSignificand) (hne : part ≠ [])
    (hpart : ∀ c ∈ part, c.isDigit) {negative : Bool} {x : Binary64}
    (hx : quick? negative (significand.take (Decimal.ofDigits whole) part).1
      (0 - (part.length - (significand.take (Decimal.ofDigits whole) part).2.length : Nat)) =
        some x) : ReadsText negative (whole ++ '.' :: part) x := by
  have htake : significand.take 0 whole = (Decimal.ofDigits whole, []) := by
    rw [take_all (by simpa using hfits), Nat.mul_zero, Nat.zero_add]
  intro rest hrest
  have hpoint : ∀ c ∈ ('.' :: (part ++ rest)).head?, c.isDigit = false := by
    rintro c ⟨⟩
    rfl
  rw [List.append_assoc, List.cons_append, read?_unsigned_whole hwhole hpoint, htake,
    read?_afterDigits_point, read?_withFraction_text hne hpart hrest.isDigit,
    read?_afterFraction_end hrest, List.length_nil, Int.natCast_zero, hx]
  rfl

theorem isNumberText_point {whole part : List Char} (hwhole : IsWhole whole)
    (hfits : Decimal.ofDigits whole ≤ maxSignificand) (hne : part ≠ [])
    (hpart : ∀ c ∈ part, c.isDigit) (negative : Bool) :
    IsNumberText negative (whole ++ '.' :: part) := by
  obtain ⟨hle, -⟩ := take_spec hfits part
  obtain ⟨x, hx⟩ := Option.isSome_iff_exists.1 (quick?_isSome_of_nonpos
    (e := 0 - (part.length - (significand.take (Decimal.ofDigits whole) part).2.length : Nat)) hle
    (by omega) negative)
  exact ⟨x, readsText_point hwhole hfits hne hpart hx⟩

/-- Digits around a point that all fit are the significand. -/
theorem readsText_point_all {whole part : List Char} (hwhole : IsWhole whole) (hne : part ≠ [])
    (hpart : ∀ c ∈ part, c.isDigit)
    (hfits : Decimal.ofDigits (whole ++ part) ≤ maxSignificand) {negative : Bool} {x : Binary64}
    (hx : quick? negative (Decimal.ofDigits (whole ++ part)) (-part.length) = some x) :
    ReadsText negative (whole ++ '.' :: part) x := by
  rw [Decimal.ofDigits_append] at hfits hx
  have hle : Decimal.ofDigits whole ≤ 10 ^ part.length * Decimal.ofDigits whole :=
    Nat.le_mul_of_pos_left _ (Nat.pow_pos (by decide))
  refine readsText_point hwhole (by omega) hne hpart ?_
  rw [take_all hfits, List.length_nil, Nat.sub_zero, Int.zero_sub]
  exact hx

/-- Downwards every exponent is in range. -/
theorem read?_ofExponent_down {value : Nat} (hvalue : value ≤ maxSignificand) {start : Int}
    (hstart : start ≤ 0) (negative : Bool) (row : List Char) :
    ∃ x, ∀ rest, (ofExponent negative value start true row).read? rest = some (x, rest) := by
  obtain ⟨x, hx⟩ := Option.isSome_iff_exists.1 (quick?_isSome_of_nonpos
    (e := start - Decimal.ofDigits row) hvalue (by omega) negative)
  by_cases hlarge : maxExponent < Decimal.ofDigits row
  · refine ⟨.signed negative .zero, fun rest => ?_⟩
    simp [ofExponent, hlarge]
  · refine ⟨x, fun rest => ?_⟩
    simp [ofExponent, hlarge, read?_ofParts, hx]

/-- Upwards an exponent is in range as far as the number is. -/
theorem read?_ofExponent_up {row : List Char} (hrow : Decimal.ofDigits row ≤ maxExponent)
    {negative : Bool} {value : Nat} {start : Int}
    (h : (quick? negative value (start + Decimal.ofDigits row)).isSome) :
    ∃ x, ∀ rest, (ofExponent negative value start false row).read? rest = some (x, rest) := by
  obtain ⟨x, hx⟩ := Option.isSome_iff_exists.1 h
  refine ⟨x, fun rest => ?_⟩
  simp [ofExponent, Nat.not_lt.2 hrow, read?_ofParts, hx]

/-- Digits with an exponent are read as one significand, as far as they fit. -/
theorem readsText_exponent {c : Char} {more exponent : List Char} (hc : c.isDigit)
    (hmore : ∀ c ∈ more, c.isDigit) (hne : exponent ≠ []) (hexponent : ∀ c ∈ exponent, c.isDigit)
    {negative down : Bool} {sign : Char} (hsign : sign = if down then '-' else '+') {x : Binary64}
    (hx : ∀ rest, (ofExponent negative (significand.take (Decimal.digitValue c) more).1
      (0 - (more.length - (significand.take (Decimal.digitValue c) more).2.length : Nat)) down
      exponent).read? rest = some (x, rest)) :
    ReadsText negative
      (c :: (if more.isEmpty then [] else '.' :: more) ++ 'e' :: sign :: exponent) x := by
  subst hsign
  have hwhole : IsWhole [c] := ⟨List.cons_ne_nil c [], by simpa using hc, fun _ => rfl⟩
  have htake : significand.take 0 [c] = (Decimal.digitValue c, []) := by
    have hlt := Decimal.digitValue_lt hc
    rw [take_all] <;> simp [Decimal.ofDigits] 
    simp only [maxSignificand]
    omega
  have hstart : (([] : List Char).length : Int) = 0 := rfl
  intro rest hrest
  set mark : List Char := 'e' :: (if down then '-' else '+') :: (exponent ++ rest)
  have hmark : ∀ c ∈ mark.head?, c.isDigit = false := by
    rintro c ⟨⟩
    rfl
  cases more with
  | nil =>
    have htext : (c :: (if ([] : List Char).isEmpty then [] else '.' :: []) ++
        'e' :: (if down then '-' else '+') :: exponent) ++ rest = [c] ++ mark := by
      simp [mark]
    rw [htext, read?_unsigned_whole hwhole hmark, htake, read?_afterDigits_exponent,
      read?_withExponent_text hne hexponent hrest, hstart]
    exact congrArg (Option.map fun p => (Json.float p.1, p.2)) (hx rest)
  | cons d more =>
    have htext : (c :: (if (d :: more).isEmpty then [] else '.' :: d :: more) ++
        'e' :: (if down then '-' else '+') :: exponent) ++ rest =
          [c] ++ '.' :: (d :: more ++ mark) := by
      simp [mark]
    have hpoint : ∀ c ∈ ('.' :: (d :: more ++ mark)).head?, c.isDigit = false := by
      rintro c ⟨⟩
      rfl
    rw [htext, read?_unsigned_whole hwhole hpoint, htake, read?_afterDigits_point,
      read?_withFraction_text (List.cons_ne_nil d more) hmore hmark, read?_afterFraction_exponent,
      read?_withExponent_text hne hexponent hrest, hstart]
    exact congrArg (Option.map fun p => (Json.float p.1, p.2)) (hx rest)

/-! ## The digits of a magnitude -/

/-- Sixteen digits fit. -/
theorem ofDigits_le_maxSignificand {row : List Char} (hrow : ∀ c ∈ row, c.isDigit)
    (hlength : row.length ≤ 16) : Decimal.ofDigits row ≤ maxSignificand := by
  have hlt := Decimal.ofDigits_lt hrow
  have hpower : 10 ^ row.length ≤ 10 ^ 16 := Nat.pow_le_pow_right (by decide) hlength
  simp only [maxSignificand]
  omega

/-- Zeros may follow the digits of a number other than zero. -/
theorem isWhole_append_zeros {n : Nat} (hn : n ≠ 0) (k : Nat) :
    IsWhole (Decimal.toDigits n ++ List.replicate k '0') where
  ne_nil := List.append_ne_nil_of_left_ne_nil (Decimal.toDigits_ne_nil n) _
  isDigit := by
    intro c hc
    rcases List.mem_append.1 hc with hc | hc
    · exact Decimal.isDigit_of_mem_toDigits hc
    · rw [List.eq_of_mem_replicate hc]
      rfl
  head_ne := by
    intro hhead
    rw [List.head?_append_of_ne_nil _ (Decimal.toDigits_ne_nil n)] at hhead
    exact absurd hhead (Decimal.head?_toDigits hn)

/-- What is left of a row of digits before some of its places begins with a zero only alone, if the
row was padded to one digit more than these. -/
theorem isWhole_take_padded {n : Nat} (hn : n ≠ 0) (k : Nat) :
    IsWhole ((Decimal.padded (k + 1) n).take ((Decimal.padded (k + 1) n).length - k)) where
  ne_nil := by
    rw [← List.length_pos_iff, List.length_take, Decimal.length_padded_eq]
    omega
  isDigit := fun _ hc => Decimal.isDigit_of_mem_padded (List.mem_of_mem_take hc)
  head_ne := by
    intro hhead
    rw [List.head?_take, Decimal.length_padded_eq, if_neg (by omega)] at hhead
    rw [List.length_take, Decimal.length_padded_eq]
    -- Only a row that was padded begins with a zero.
    rcases Nat.lt_or_ge (Decimal.toDigits n).length (k + 1) with hshort | hlong
    · omega
    · rw [Decimal.padded, Nat.sub_eq_zero_of_le hlong] at hhead
      exact absurd hhead (Decimal.head?_toDigits hn)

/-- Digits set out around the point, as those before it and those behind it. -/
theorem exists_positionalText {d : Decimal} (hdigits : d.digits ≠ 0) :
    ∃ whole part, Decimal.Layout.json.positionalText d = whole ++ '.' :: part ∧ IsWhole whole ∧
      (∀ c ∈ part, c.isDigit) ∧
      (whole.length : Int) = max 1 ((Decimal.toDigits d.digits).length + d.exponent) ∧
      (part.length : Int) = max 1 (-d.exponent) ∧
      Decimal.ofDigits (whole ++ part) = d.digits * 10 ^ (d.exponent + 1).toNat := by
  have hlength := List.length_pos_iff.2 (Decimal.toDigits_ne_nil d.digits)
  unfold Decimal.Layout.positionalText
  cases d.exponent with
  | ofNat e =>
    refine ⟨_, ['0'], rfl, isWhole_append_zeros hdigits e, isWhole_zero.isDigit, ?_, ?_, ?_⟩
    · rw [List.length_append, List.length_replicate, Int.ofNat_eq_natCast]
      omega
    · rw [List.length_singleton, Int.ofNat_eq_natCast]
      omega
    · have hplaces : (Int.ofNat e + 1).toNat = e + 1 := rfl
      have hzero : ['0'] = List.replicate 1 '0' := rfl
      rw [hplaces, List.append_assoc, hzero, List.replicate_append_replicate,
        Decimal.ofDigits_append, Decimal.ofDigits_replicate_zero, List.length_replicate,
        Decimal.ofDigits_toDigits, Nat.add_zero, Nat.mul_comm]
  | negSucc e =>
    refine ⟨(Decimal.padded (e + 2) d.digits).take
        ((Decimal.padded (e + 2) d.digits).length - (e + 1)),
      (Decimal.padded (e + 2) d.digits).drop ((Decimal.padded (e + 2) d.digits).length - (e + 1)),
      rfl, isWhole_take_padded hdigits (e + 1),
      fun c hc => Decimal.isDigit_of_mem_padded (List.mem_of_mem_drop hc), ?_, ?_, ?_⟩
    · rw [List.length_take, Decimal.length_padded_eq]
      omega
    · rw [List.length_drop, Decimal.length_padded_eq]
      omega
    · have hplaces : (Int.negSucc e + 1).toNat = 0 := by omega
      rw [hplaces, List.take_append_drop, Decimal.ofDigits_padded, Nat.pow_zero, Nat.mul_one]

theorem isNumberText_positional {d : Decimal} (hdigits : d.digits ≠ 0)
    (hplace : ((Decimal.toDigits d.digits).length : Int) - 1 + d.exponent ≤ 15)
    (negative : Bool) : IsNumberText negative (Decimal.Layout.json.positionalText d) := by
  obtain ⟨whole, part, htext, hwhole, hpart, hwholeLength, hpartLength, -⟩ :=
    exists_positionalText hdigits
  have hne : part ≠ [] := by
    rw [← List.length_pos_iff]
    omega
  rw [htext]
  exact isNumberText_point hwhole (ofDigits_le_maxSignificand hwhole.isDigit (by omega)) hne hpart
    negative

/-- Digits in scientific writing, as the first one, the others, and the exponent. -/
theorem exists_exponentText (d : Decimal) (place : Int) :
    ∃ c more, Decimal.toDigits d.digits = c :: more ∧ c.isDigit ∧ (∀ c ∈ more, c.isDigit) ∧
      10 ^ more.length * Decimal.digitValue c + Decimal.ofDigits more = d.digits ∧
      Decimal.Layout.exponentText d place = c :: (if more.isEmpty then [] else '.' :: more) ++
        'e' :: (if decide (place < 0) then '-' else '+') :: Decimal.toDigits place.natAbs := by
  have hdigit : ∀ c ∈ Decimal.toDigits d.digits, c.isDigit :=
    fun _ => Decimal.isDigit_of_mem_toDigits
  have hvalue := Decimal.ofDigits_toDigits d.digits
  obtain ⟨c, more, hrow⟩ := List.exists_cons_of_ne_nil (Decimal.toDigits_ne_nil d.digits)
  rw [hrow] at hdigit hvalue
  rw [Decimal.ofDigits_cons] at hvalue
  refine ⟨c, more, hrow, hdigit c List.mem_cons_self,
    fun c' hc' => hdigit c' (List.mem_cons_of_mem c hc'), hvalue, ?_⟩
  simp [Decimal.Layout.exponentText, hrow]

/-- A number in scientific writing whose digits all fit is read with its exponent. -/
theorem readsText_exponentText {d : Decimal} {place : Int} (hfits : d.digits ≤ maxSignificand)
    (hplace : place = (Decimal.toDigits d.digits).length - 1 + d.exponent)
    (hexponent : place.natAbs ≤ maxExponent) {negative : Bool} {x : Binary64}
    (hx : quick? negative d.digits d.exponent = some x) :
    ReadsText negative (Decimal.Layout.exponentText d place) x := by
  obtain ⟨c, more, hrow, hc, hmore, hvalue, htext⟩ := exists_exponentText d place
  have htake : significand.take (Decimal.digitValue c) more = (d.digits, []) := by
    rw [take_all (hvalue ▸ hfits), hvalue]
  rw [hrow, List.length_cons] at hplace
  rw [htext]
  refine readsText_exponent hc hmore (Decimal.toDigits_ne_nil _)
    (fun _ => Decimal.isDigit_of_mem_toDigits) rfl fun rest => ?_
  have hsum : (if decide (place < 0) then (0 : Int) - (more.length - 0 : Nat) - place.natAbs
      else 0 - (more.length - 0 : Nat) + place.natAbs) = d.exponent := by
    split
    · next h =>
      have hneg : place < 0 := of_decide_eq_true h
      omega
    · next h =>
      have hnonneg : ¬ place < 0 := fun hneg => h (decide_eq_true hneg)
      omega
  rw [htake, ofExponent, Decimal.ofDigits_toDigits, if_neg (Nat.not_lt.2 hexponent),
    List.length_nil, hsum, read?_ofParts, hx]
  rfl

/-- A number in scientific writing is read, as many digits as fit, if it is in range. -/
theorem isNumberText_exponentText {d : Decimal} {negative : Bool}
    (hceiling : places d.digits d.exponent ≤ decimalCeiling)
    (hquick : ∀ n dropped : Nat, n ≤ maxSignificand → n * 10 ^ dropped ≤ d.digits →
      (d.digits ≤ maxSignificand → n = d.digits ∧ dropped = 0) →
        (quick? negative n (dropped + d.exponent)).isSome) :
    IsNumberText negative (Decimal.Layout.exponentText d
      ((Decimal.toDigits d.digits).length - 1 + d.exponent)) := by
  obtain ⟨c, more, hrow, hc, hmore, hvalue, htext⟩ := exists_exponentText d
    ((Decimal.toDigits d.digits).length - 1 + d.exponent)
  rw [htext]
  simp only [places, decimalCeiling] at hceiling
  rw [hrow] at hceiling ⊢
  have hfirst : Decimal.digitValue c ≤ maxSignificand :=
    Nat.le_trans (Decimal.digitValue_lt hc).le (by decide)
  obtain ⟨hle, taken, htaken, hread⟩ := take_spec hfirst more
  have hall : _ → significand.take (Decimal.digitValue c) more = _ := take_all
  rw [hvalue] at hall
  generalize hsignificand : significand.take (Decimal.digitValue c) more = read at *
  obtain ⟨n, left⟩ := read
  have hplace : ((c :: more).length : Int) - 1 + d.exponent = more.length + d.exponent := by
    rw [List.length_cons]
    omega
  rw [hplace]
  -- The readers of an exponent by its direction are enough.
  suffices hrange : ∃ x, ∀ rest, (ofExponent negative n (0 - (more.length - left.length : Nat))
      (decide ((more.length : Int) + d.exponent < 0))
      (Decimal.toDigits ((more.length : Int) + d.exponent).natAbs)).read? rest = some (x, rest) by
    obtain ⟨x, hx⟩ := hrange
    refine ⟨x, readsText_exponent hc hmore (Decimal.toDigits_ne_nil _)
      (fun _ => Decimal.isDigit_of_mem_toDigits) rfl ?_⟩
    rw [hsignificand]
    exact hx
  by_cases hneg : (more.length : Int) + d.exponent < 0
  · rw [decide_eq_true hneg]
    exact read?_ofExponent_down hle (by omega) negative _
  · rw [decide_eq_false hneg]
    refine read?_ofExponent_up ?_ ?_
    · rw [Decimal.ofDigits_toDigits]
      simp only [maxExponent]
      omega
    · have hlength : more.length = taken.length + left.length := by
        rw [← List.length_append, ← htaken]
      have hexponent : (0 : Int) - (more.length - left.length : Nat) +
          ((more.length + d.exponent).natAbs : Nat) = left.length + d.exponent := by
        omega
      rw [Decimal.ofDigits_toDigits, hexponent]
      refine hquick n left.length hle ?_ fun hfits => ?_
      · have hleft : Decimal.ofDigits more =
            10 ^ left.length * Decimal.ofDigits taken + Decimal.ofDigits left := by
          rw [htaken, Decimal.ofDigits_append]
        calc n * 10 ^ left.length
            ≤ n * 10 ^ left.length + Decimal.ofDigits left := Nat.le_add_right _ _
          _ = d.digits := by
            dsimp only at hread
            rw [← hvalue, hleft, hread, hlength, Nat.pow_add]
            ring
      · obtain ⟨rfl, rfl⟩ := Prod.mk.inj (hall hfits)
        exact ⟨rfl, rfl⟩

/-- Every finite magnitude is written as a number that is in range. -/
theorem isNumberText_magnitudeText {m : Binary64.Magnitude} (hm : m.isFinite) (negative : Bool) :
    IsNumberText negative (Decimal.Layout.json.magnitudeText m) := by
  unfold Decimal.Layout.magnitudeText
  split
  · exact isNumberText_point isWhole_zero (by decide) isWhole_zero.ne_nil isWhole_zero.isDigit
      negative
  next hrank =>
  obtain ⟨hdigits, hceiling, -⟩ :=
    nearest_of_readsBack hm hrank (Magnitude.readsBack_shortest hm hrank .toEven)
  dsimp only
  split
  · next hplace =>
    simp only [Decimal.Layout.json, Bool.and_eq_true, decide_eq_true_eq] at hplace
    exact isNumberText_positional hdigits hplace.2 negative
  · exact isNumberText_exponentText hceiling fun n dropped hn hle hall =>
      quick?_shortest hm hrank hn hle hall negative

/-- A number without its sign begins with a digit. -/
theorem exists_cons_of_isNumberText {negative : Bool} {text : List Char}
    (h : IsNumberText negative text) : ∃ c more, text = c :: more ∧ c.isDigit := by
  obtain ⟨x, hx⟩ := h
  have hread := hx [] delimits_nil
  rw [List.append_nil, read?_unsigned, read?_bind, read?_digitRun, Option.bind_some] at hread
  cases text with
  | nil => cases hread
  | cons c more =>
    refine ⟨c, more, rfl, ?_⟩
    by_contra hc
    rw [List.takeWhile_cons_of_neg hc] at hread
    cases hread

/-- A value that begins like a number is read as one. -/
theorem read?_glance_number {c : Char} (hc : c.isDigit ∨ c = '-') {gap : List Char}
    (hgap : Blank gap) (text : List Char) :
    Schema.glance.read? (gap ++ c :: text) = number.read? (c :: text) := by
  have hplain (d : Char) (hd : d.isDigit = false ∧ d ≠ '-') : c ≠ d := by
    rintro rfl
    rcases hc with hc | hc
    · exact Bool.false_ne_true (hd.1.symm.trans hc)
    · exact hd.2 hc
  have hspace : isSpace c = false := by
    simp [isSpace, hplain ' ' (by decide), hplain '\n' (by decide), hplain '\t' (by decide),
      hplain '\r' (by decide)]
  have hnumber : (c = '-' || c.isDigit) = true := by
    simpa [or_comm] using hc
  rw [Schema.read?_glance hspace (hplain '[' (by decide)) (hplain '\x7b' (by decide)) hgap,
    Tree.scalar, read?_bind]
  have hstart := read?_valueStart_cons blank_nil hspace text
  rw [List.nil_append] at hstart
  rw [hstart, Option.bind_some]
  split
  · next h => exact absurd h (hplain 'n' (by decide))
  · next h => exact absurd h (hplain 't' (by decide))
  · next h => exact absurd h (hplain 'f' (by decide))
  · next h => exact absurd h (hplain '"' (by decide))
  · rw [if_pos hnumber]

end CertaintyFactor.Json.Number

namespace CertaintyFactor

open Json.Reader Json.Number

/-- What a number is read as once it was written in a document. -/
def Binary64.reread (x : Binary64) : Binary64 :=
  match number.read? (Decimal.Layout.json.text x).toList with
  | some (.float y, _) => y
  | _ => .nan

namespace Json

namespace Number

/-- The text of a finite number is its magnitude's, with a sign before it if it is negative. -/
theorem toList_text {negative : Bool} {m : Binary64.Magnitude} (hm : m.isFinite) :
    (Decimal.Layout.json.text (.signed negative m)).toList =
      if negative then '-' :: Decimal.Layout.json.magnitudeText m
      else Decimal.Layout.json.magnitudeText m := by
  cases negative <;> simp [Decimal.Layout.text, hm]

theorem read?_text {negative : Bool} {m : Binary64.Magnitude} (hm : m.isFinite) {y : Binary64}
    (h : ReadsText negative (Decimal.Layout.json.magnitudeText m) y) {rest : List Char}
    (hrest : Delimits rest) :
    number.read? ((Decimal.Layout.json.text (.signed negative m)).toList ++ rest) =
      some (.float y, rest) := by
  obtain ⟨c, more, hmore, hc⟩ := exists_cons_of_isNumberText ⟨y, h⟩
  rw [toList_text hm, ← h rest hrest]
  cases negative with
  | true => rfl
  | false =>
    rw [if_neg Bool.false_ne_true, hmore, List.cons_append]
    exact read?_number_of_isDigit hc _

theorem reread_eq {negative : Bool} {m : Binary64.Magnitude} (hm : m.isFinite) {y : Binary64}
    (h : ReadsText negative (Decimal.Layout.json.magnitudeText m) y) :
    (Binary64.signed negative m).reread = y := by
  have hnil := read?_text hm h delimits_nil
  rw [List.append_nil] at hnil
  rw [Binary64.reread, hnil]

/-- A finite number is read as a number, whatever it stands before. -/
theorem read?_floatText {x : Binary64} (hx : x.isFinite) {rest : List Char}
    (hrest : Delimits rest) :
    number.read? ((Decimal.Layout.json.text x).toList ++ rest) = some (.float x.reread, rest) := by
  cases x with
  | nan => cases hx
  | signed negative m =>
    obtain ⟨y, hy⟩ := isNumberText_magnitudeText hx negative
    rw [reread_eq hx hy]
    exact read?_text hx hy hrest

end Number

namespace Schema

theorem takes_glance_integer {n : Int} (hmin : Binary64.minInt64 ≤ n) (hmax : n ≤ maxSignificand) :
    Takes glance (Decimal.integerText n).toList (some (.integer n)) := by
  intro gap rest hgap hrest
  have hread := read?_integerText hmin hmax hrest
  have hbegin : ∃ c more, (Decimal.integerText n).toList = c :: more ∧ (c.isDigit ∨ c = '-') := by
    cases n with
    | negSucc m => exact ⟨'-', Decimal.toDigits (m + 1), by simp [Decimal.integerText], .inr rfl⟩
    | ofNat m =>
      obtain ⟨c, more, hmore⟩ := List.exists_cons_of_ne_nil (Decimal.toDigits_ne_nil m)
      exact ⟨c, more, by simp [Decimal.integerText, hmore],
        .inl (Decimal.isDigit_of_mem_toDigits (n := m) (hmore ▸ List.mem_cons_self))⟩
  obtain ⟨c, more, hmore, hc⟩ := hbegin
  rw [hmore, List.cons_append] at hread ⊢
  rw [read?_glance_number hc hgap, hread]
  rfl

theorem takes_glance_float {x : Binary64} (hx : x.isFinite) :
    Takes glance (Decimal.Layout.json.text x).toList (some (.float x.reread)) := by
  intro gap rest hgap hrest
  have hread := read?_floatText hx hrest
  have hbegin : ∃ c more, (Decimal.Layout.json.text x).toList = c :: more ∧
      (c.isDigit ∨ c = '-') := by
    cases x with
    | nan => cases hx
    | signed negative m =>
      rw [toList_text hx]
      cases negative with
      | true => exact ⟨'-', _, rfl, .inr rfl⟩
      | false =>
        obtain ⟨c, more, hmore, hc⟩ :=
          exists_cons_of_isNumberText (isNumberText_magnitudeText hx false)
        exact ⟨c, more, hmore, .inl hc⟩
  obtain ⟨c, more, hmore, hc⟩ := hbegin
  rw [hmore, List.cons_append] at hread ⊢
  rw [read?_glance_number hc hgap, hread]
  rfl

end Schema

end Json

end CertaintyFactor
