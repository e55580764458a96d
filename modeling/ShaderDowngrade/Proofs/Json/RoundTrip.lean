import ShaderDowngrade.Proofs.Json.Strings

/-!
# Reading written values

A value is portable if it holds no floating-point numbers, no surrogates, no integers that are too
long to be read, and no object with two fields of one name. Such a value is read back from what is
written of it, at any level of indentation and whatever stands behind it, if its brackets are not
nested too deep.

Main statements: `Json.readValue_encodeAt`, what is written is read, and `Json.read_encode`, the
same for whole texts; `Json.isWritten_encodeAt`, what is written is visible ASCII and newlines.

## Where a value ends

A number ends only where what follows cannot belong to it. What is written behind a value is a
comma or a newline, or nothing at all, so a value is read in front of any text that begins with
neither a digit nor a point nor the letter of an exponent.
-/

namespace ShaderDowngrade.Json

/-! ## Numbers -/

/-- The text does not go on with a number. -/
def EndsNumber (rest : Text) : Prop :=
  ∀ c ∈ rest.head?, c.isDigit = false ∧ c ≠ '.' ∧ c ≠ 'e' ∧ c ≠ 'E'

variable {rest : Text}

theorem endsNumber_nil : EndsNumber [] := by
  rintro c ⟨⟩

theorem endsNumber_comma (rest : Text) : EndsNumber (',' :: rest) := by
  rintro c ⟨⟩
  decide

theorem endsNumber_lineBreak (depth : Nat) (rest : Text) :
    EndsNumber (lineBreak depth ++ rest) := by
  rintro c ⟨⟩
  decide

theorem EndsNumber.takeWhile_eq_nil (h : EndsNumber rest) : rest.takeWhile Char.isDigit = [] := by
  cases rest with
  | nil => rfl
  | cons c cs => rw [List.takeWhile_cons, (h c rfl).1, if_neg Bool.false_ne_true]

theorem EndsNumber.fraction?_eq_none (h : EndsNumber rest) : fraction? rest = none := by
  cases rest with
  | nil => rfl
  | cons c cs =>
    rw [fraction?]
    intro _ heq
    exact (h c rfl).2.1 (List.cons.inj heq).1

theorem EndsNumber.exponent?_eq_none (h : EndsNumber rest) : exponent? rest = none := by
  cases rest with
  | nil => rfl
  | cons c cs =>
    obtain ⟨-, -, he, hE⟩ := h c rfl
    simp only [exponent?, he, hE, or_self, if_false]

/-- The number of decimal digits of an integer, its sign not counted. -/
def digitCount (n : Int) : Nat := (Nat.toDigits 10 n.natAbs).length

theorem exists_cons_toDigits {n : Nat} (h : n ≠ 0) :
    ∃ c cs, Nat.toDigits 10 n = c :: cs ∧ c ≠ '0' := by
  induction n using Nat.strongRecOn with
  | _ n ih =>
    by_cases hsmall : n < 10
    · exact ⟨_, [], Nat.toDigits_of_lt_base hsmall, mt Nat.digitChar_eq_zero.1 h⟩
    · obtain ⟨c, cs, hcs, hc⟩ := ih (n / 10) (by omega) (by omega)
      refine ⟨c, cs ++ [(n % 10).digitChar], ?_, hc⟩
      rw [Nat.toDigits_of_base_le (by decide) (by omega), hcs, List.cons_append]

/-- The digits of a number are read to their end. -/
theorem readNumber_toDigits (negative : Bool) (whole : Text) {n : Nat}
    (hlength : (Nat.toDigits 10 n).length ≤ 4300) (h : EndsNumber rest) :
    readNumber negative whole (Nat.toDigits 10 n ++ rest) =
      .ok (.int (if negative then -(n : Int) else n), rest) := by
  have hvalue : Pattern.digitsValue (Nat.toDigits 10 n) = n :=
    Nat.ofDigitChars_toDigits (by decide) (by decide)
  have hdigits : (Nat.toDigits 10 n ++ rest).takeWhile Char.isDigit = Nat.toDigits 10 n := by
    rw [List.takeWhile_append_of_pos fun c hc ↦
      Nat.isDigit_of_mem_toDigits (by decide) (by decide) hc, h.takeWhile_eq_nil, List.append_nil]
  by_cases hn : n = 0
  · subst hn
    simp [readNumber, Nat.toDigits_zero, h.fraction?_eq_none, h.exponent?_eq_none,
      Pattern.digitsValue]
  · obtain ⟨c, cs, hcs, hc⟩ := exists_cons_toDigits hn
    rw [hcs] at hdigits hlength hvalue ⊢
    rw [List.cons_append] at hdigits ⊢
    simpa [readNumber, hc, hdigits, hvalue, h.fraction?_eq_none, h.exponent?_eq_none] using hlength

/-! ## Single steps of the reader -/

variable {fuel room : Nat} {c : Char} {cs : Text}

theorem skipSpace_cons (h : isSpace c = false) : skipSpace (c :: cs) = c :: cs := by
  rw [skipSpace, List.dropWhile_cons_of_neg (by simp [h])]

/-- The text begins with a visible character that closes neither a list nor an object. -/
def Opens (t : Text) : Prop := ∃ c cs, t = c :: cs ∧ isSpace c = false ∧ c ≠ ']' ∧ c ≠ '}'

theorem Opens.append {t : Text} (h : Opens t) (rest : Text) : Opens (t ++ rest) := by
  obtain ⟨c, cs, rfl, hc⟩ := h
  exact ⟨c, cs ++ rest, rfl, hc⟩

theorem Opens.skipSpace_eq {t : Text} (h : Opens t) : skipSpace t = t := by
  obtain ⟨c, cs, rfl, hspace, -⟩ := h
  exact skipSpace_cons hspace

theorem skipSpace_lineBreak (depth : Nat) (cs : Text) :
    skipSpace (lineBreak depth ++ cs) = skipSpace cs := by
  refine List.dropWhile_append_of_pos fun c hc ↦ ?_
  rcases List.mem_cons.1 hc with rfl | hc
  · rfl
  · rw [List.eq_of_mem_replicate hc]
    rfl

theorem readValue_string {s : CodeString} (h : readString cs = .ok (s, rest)) :
    readValue (fuel + 1) room ('"' :: cs) = .ok (.str s, rest) := by
  rw [readValue, h]
  rfl

theorem readValue_array {items : List Json} {later : Text} (hlater : Opens later)
    (h : skipSpace cs = later) (hitems : readItems fuel room later = .ok (items, rest)) :
    readValue (fuel + 1) (room + 1) ('[' :: cs) = .ok (.arr items, rest) := by
  obtain ⟨c, more, rfl, -, hc, -⟩ := hlater
  simp [readValue, h, hc, hitems, Except.map]

theorem readValue_object {fields : List (CodeString × Json)} {later : Text} (hlater : Opens later)
    (h : skipSpace cs = later) (hfields : readFields fuel room later = .ok (fields, rest)) :
    readValue (fuel + 1) (room + 1) ('{' :: cs) = .ok (.ofFields fields, rest) := by
  obtain ⟨c, more, rfl, -, -, hc⟩ := hlater
  simp [readValue, h, hc, hfields, Except.map]

/-- A value that begins with neither a quote nor a bracket. -/
theorem readValue_scalar (hquote : c ≠ '"') (hbracket : c ≠ '[') (hbrace : c ≠ '{') :
    readValue (fuel + 1) room (c :: cs) =
      match keyword? (c :: cs) with
      | some (value, rest) => .ok (value, rest)
      | none =>
        if c = '-' then readNumber true (c :: cs) cs
        else readNumber false (c :: cs) (c :: cs) := by
  cases hkeyword : keyword? (c :: cs) with
  | some found => simp [readValue, hquote, hbracket, hbrace, hkeyword]
  | none =>
    by_cases hminus : c = '-'
    · subst hminus
      simp [readValue, hkeyword]
    · simp [readValue, hquote, hbracket, hbrace, hkeyword, hminus]

theorem readItems_last {item : Json} {more : Text}
    (hitem : readValue fuel room cs = .ok (item, more)) (h : skipSpace more = ']' :: rest) :
    readItems (fuel + 1) room cs = .ok ([item], rest) := by
  rw [readItems, hitem]
  simp only [bind, Except.bind, h]
  rfl

theorem readItems_next {item : Json} {items : List Json} {more later : Text}
    (hitem : readValue fuel room cs = .ok (item, more)) (h : skipSpace more = ',' :: later)
    (hitems : readItems fuel room (skipSpace later) = .ok (items, rest)) :
    readItems (fuel + 1) room cs = .ok (item :: items, rest) := by
  rw [readItems, hitem]
  simp only [bind, Except.bind, h, hitems]
  rfl

theorem readFields_last {name : CodeString} {value : Json} {more later behind : Text}
    (hname : readString cs = .ok (name, more)) (hcolon : skipSpace more = ':' :: later)
    (hvalue : readValue fuel room (skipSpace later) = .ok (value, behind))
    (h : skipSpace behind = '}' :: rest) :
    readFields (fuel + 1) room ('"' :: cs) = .ok ([(name, value)], rest) := by
  rw [readFields, hname]
  simp only [bind, Except.bind, hcolon, hvalue, h]
  rfl

theorem readFields_next {name : CodeString} {value : Json} {fields : List (CodeString × Json)}
    {more later behind behind' : Text} (hname : readString cs = .ok (name, more))
    (hcolon : skipSpace more = ':' :: later)
    (hvalue : readValue fuel room (skipSpace later) = .ok (value, behind))
    (h : skipSpace behind = ',' :: behind')
    (hfields : readFields fuel room (skipSpace behind') = .ok (fields, rest)) :
    readFields (fuel + 1) room ('"' :: cs) = .ok ((name, value) :: fields, rest) := by
  rw [readFields, hname]
  simp only [bind, Except.bind, hcolon, hvalue, h, hfields]
  rfl

/-! ## Scalars -/

theorem ne_of_isDigit {d : Char} (hc : c.isDigit = true) (hd : d.isDigit = false) : c ≠ d := by
  rintro rfl
  rw [hc] at hd
  cases hd

theorem keyword?_of_isDigit (h : c.isDigit = true) (cs : Text) :
    keyword? (c :: cs) = none ∧ keyword? ('-' :: c :: cs) = none := by
  have hne {d : Char} (hd : d.isDigit = false) : ¬ d = c := (ne_of_isDigit h hd).symm
  constructor <;> simp [keyword?, hne]

theorem toList_toString_int (n : Int) :
    (toString n).toList =
      if n < 0 then '-' :: Nat.toDigits 10 n.natAbs else Nat.toDigits 10 n.natAbs := by
  cases n with
  | ofNat m =>
    rw [if_neg (by simp)]
    exact Nat.toList_repr
  | negSucc m =>
    rw [if_pos (Int.negSucc_lt_zero m)]
    change ("-" ++ Nat.repr (m + 1)).toList = _
    rw [String.toList_append, Nat.toList_repr]
    rfl

theorem exists_digit_toDigits (n : Nat) :
    ∃ c cs, Nat.toDigits 10 n = c :: cs ∧ c.isDigit = true := by
  obtain ⟨c, cs, hcs⟩ := List.exists_cons_of_ne_nil (Nat.toDigits_ne_nil (n := n) (b := 10))
  have hmem : c ∈ Nat.toDigits 10 n := hcs ▸ List.mem_cons_self
  exact ⟨c, cs, hcs, Nat.isDigit_of_mem_toDigits (by decide) (by decide) hmem⟩

theorem readValue_int {n : Int} (hlength : digitCount n ≤ 4300) (h : EndsNumber rest) :
    readValue (fuel + 1) room ((toString n).toList ++ rest) = .ok (.int n, rest) := by
  obtain ⟨c, cs, hcs, hc⟩ := exists_digit_toDigits n.natAbs
  obtain ⟨hkeyword, hminus⟩ := keyword?_of_isDigit hc (cs ++ rest)
  have hread (negative : Bool) (whole : Text) := readNumber_toDigits negative whole hlength h
  rw [toList_toString_int]
  split
  · rw [List.cons_append, readValue_scalar (by decide) (by decide) (by decide), hcs,
      List.cons_append, hminus]
    dsimp only
    rw [if_pos rfl, ← List.cons_append, ← hcs, hread]
    simp only [if_true]
    congr 3
    omega
  · rw [hcs, List.cons_append, readValue_scalar (ne_of_isDigit hc rfl) (ne_of_isDigit hc rfl)
      (ne_of_isDigit hc rfl), hkeyword]
    dsimp only
    rw [if_neg (ne_of_isDigit hc rfl), ← List.cons_append, ← hcs, hread]
    simp only [Bool.false_eq_true, if_false]
    congr 3
    omega

/-! ## Portable values -/

mutual

/-- The value can be read back from what is written of it. -/
def Portable : Json → Prop
  | .null | .bool _ => True
  | .int n => digitCount n ≤ 4300
  | .float _ => False
  | .str s => s.IsText
  | .arr items => PortableItems items
  | .obj fields => (fields.map Prod.fst).Nodup ∧ PortableFields fields

/-- All values of a list can be read back. -/
def PortableItems : List Json → Prop
  | [] => True
  | item :: items => item.Portable ∧ PortableItems items

/-- All fields of an object can be read back. -/
def PortableFields : List (CodeString × Json) → Prop
  | [] => True
  | (name, value) :: fields => name.IsText ∧ value.Portable ∧ PortableFields fields

end

mutual

/-- How deep brackets are nested in a value. -/
def height : Json → Nat
  | .arr items => heightItems items + 1
  | .obj fields => heightFields fields + 1
  | _ => 0

/-- How deep brackets are nested in the values of a list. -/
def heightItems : List Json → Nat
  | [] => 0
  | item :: items => max item.height (heightItems items)

/-- How deep brackets are nested in the values of an object. -/
def heightFields : List (CodeString × Json) → Nat
  | [] => 0
  | (_, value) :: fields => max value.height (heightFields fields)

end

theorem portableItems_map {α : Type} {f : α → Json} {xs : List α}
    (h : ∀ x ∈ xs, (f x).Portable) : PortableItems (xs.map f) := by
  induction xs with
  | nil => trivial
  | cons x xs ih =>
    obtain ⟨hx, hxs⟩ := List.forall_mem_cons.1 h
    exact ⟨hx, ih hxs⟩

theorem heightItems_map_le {α : Type} {n : Nat} (f : α → Json) (h : ∀ x, (f x).height ≤ n)
    (xs : List α) : heightItems (xs.map f) ≤ n := by
  induction xs with
  | nil => exact Nat.zero_le n
  | cons x xs ih => exact Nat.max_le.2 ⟨h x, ih⟩

theorem opens_encodeAt {v : Json} (h : v.Portable) (depth : Nat) : Opens (encodeAt depth v) := by
  cases v with
  | null => exact ⟨'n', _, rfl, by decide⟩
  | bool b => cases b <;> exact ⟨_, _, rfl, by decide⟩
  | int n =>
    obtain ⟨c, cs, hcs, hc⟩ := exists_digit_toDigits n.natAbs
    rw [encodeAt, toList_toString_int, hcs]
    split
    · exact ⟨'-', _, rfl, by decide⟩
    · refine ⟨c, cs, rfl, ?_, ne_of_isDigit hc rfl, ne_of_isDigit hc rfl⟩
      simp [isSpace, ne_of_isDigit hc]
  | float x => exact h.elim
  | str s => exact ⟨'"', _, rfl, by decide⟩
  | arr items =>
    rw [encodeAt, bracketed]
    split <;> exact ⟨'[', _, rfl, by decide⟩
  | obj fields =>
    rw [encodeAt, bracketed]
    split <;> exact ⟨'{', _, rfl, by decide⟩

theorem setField_of_notMem {name : CodeString} {value : Json} {fields : List (CodeString × Json)}
    (h : name ∉ fields.map Prod.fst) : setField name value fields = fields ++ [(name, value)] := by
  induction fields with
  | nil => rfl
  | cons f fields ih =>
    obtain ⟨hf, hfields⟩ := not_or.1 (mt List.mem_cons.2 h)
    rw [setField, if_neg (Ne.symm hf), ih hfields, List.cons_append]

theorem ofFields_eq_obj {fields : List (CodeString × Json)}
    (h : (fields.map Prod.fst).Nodup) : ofFields fields = .obj fields := by
  -- the fields that have been taken over already share no name with those that are to come
  have key (fields acc : List (CodeString × Json)) (h : ((acc ++ fields).map Prod.fst).Nodup) :
      fields.foldl (fun acc field ↦ setField field.1 field.2 acc) acc = acc ++ fields := by
    induction fields generalizing acc with
    | nil => rw [List.foldl_nil, List.append_nil]
    | cons f fields ih =>
      obtain ⟨name, value⟩ := f
      have hname : name ∉ acc.map Prod.fst := fun hmem ↦ by
        rw [List.map_append, List.nodup_append] at h
        exact h.2.2 name hmem name (by simp) rfl
      rw [List.foldl_cons]
      dsimp only
      rw [setField_of_notMem hname, ih _ (by simpa using h), List.append_assoc,
        List.singleton_append]
  rw [ofFields, key fields [] h, List.nil_append]

/-! ## Reading what is written -/

theorem exists_fuel {v : Json} (h : v.Portable) {depth : Nat}
    (hfuel : 2 * (encodeAt depth v).length ≤ fuel) : ∃ n, fuel = n + 1 := by
  obtain ⟨c, cs, hcs, -⟩ := opens_encodeAt h depth
  rw [hcs, List.length_cons] at hfuel
  exact Nat.exists_eq_succ_of_ne_zero (by omega)

/-- The items of a list or object, each on a line of its own. -/
def onLines (depth : Nat) (items : List Text) : Text :=
  Text.joinWith (',' :: lineBreak depth) items

theorem bracketed_cons_append (left right : Char) (depth : Nat) (item : Text) (items : List Text)
    (rest : Text) :
    bracketed left right depth (item :: items) ++ rest =
      left :: (lineBreak (depth + 1) ++
        (onLines (depth + 1) (item :: items) ++ (lineBreak depth ++ right :: rest))) := by
  simp [bracketed, onLines]

theorem length_onLines_add_two_le (left right : Char) (depth : Nat) (item : Text)
    (items : List Text) :
    (onLines (depth + 1) (item :: items)).length + 2 ≤
      (bracketed left right depth (item :: items)).length := by
  have h := congrArg List.length (bracketed_cons_append left right depth item items [])
  simp only [List.append_nil, List.length_cons, List.length_append, List.length_nil] at h
  omega

theorem onLines_cons_cons (depth : Nat) (t t' : Text) (ts : List Text) :
    onLines depth (t :: t' :: ts) = t ++ ',' :: (lineBreak depth ++ onLines depth (t' :: ts)) := by
  rw [onLines, Text.joinWith, List.append_assoc]
  · rfl
  · rintro ⟨⟩

theorem Opens.onLines {t : Text} (h : Opens t) (depth : Nat) (ts : List Text) :
    Opens (onLines depth (t :: ts)) := by
  cases ts with
  | nil => exact h
  | cons t' ts =>
    rw [onLines_cons_cons]
    exact h.append _

theorem opens_encodeItems {item : Json} (h : item.Portable) (items : List Json) (depth : Nat) :
    Opens (onLines depth (encodeItems depth (item :: items))) := by
  rw [encodeItems]
  exact (opens_encodeAt h depth).onLines depth _

theorem opens_encodeFields (field : CodeString × Json) (fields : List (CodeString × Json))
    (depth : Nat) : Opens (onLines depth (encodeFields depth (field :: fields))) := by
  have hquote (more : Text) : Opens (encodeString field.1 ++ more) := ⟨'"', _, rfl, by decide⟩
  exact (hquote _).onLines depth (encodeFields depth fields)

theorem encodeField_append (t : Text) (depth : Nat) (value : Json) (rest : Text) :
    encodeString (.ofText t) ++ ':' :: ' ' :: encodeAt depth value ++ rest =
      '"' :: (t.flatMap escapeChar ++ '"' :: ':' :: ' ' :: (encodeAt depth value ++ rest)) := by
  rw [List.append_assoc, encodeString_ofText]
  rfl

mutual

/-- **A written value is read back**, at any level and in front of anything that does not belong to
it. -/
theorem readValue_encodeAt : ∀ (v : Json) (depth fuel room : Nat) (rest : Text), v.Portable →
    v.height ≤ room → 2 * (encodeAt depth v).length ≤ fuel → EndsNumber rest →
      readValue fuel room (encodeAt depth v ++ rest) = .ok (v, rest)
  | .null, depth, fuel, room, rest, h, _, hfuel, _ => by
    obtain ⟨fuel, rfl⟩ := exists_fuel h hfuel
    exact readValue_scalar (by decide) (by decide) (by decide)
  | .bool b, depth, fuel, room, rest, h, _, hfuel, _ => by
    obtain ⟨fuel, rfl⟩ := exists_fuel h hfuel
    cases b <;> exact readValue_scalar (by decide) (by decide) (by decide)
  | .int n, depth, fuel, room, rest, h, _, hfuel, hrest => by
    obtain ⟨fuel, rfl⟩ := exists_fuel h hfuel
    exact readValue_int h hrest
  | .float x, _, _, _, _, h, _, _, _ => h.elim
  | .str s, depth, fuel, room, rest, h, _, hfuel, _ => by
    obtain ⟨fuel, rfl⟩ := exists_fuel h hfuel
    obtain ⟨t, rfl⟩ := CodeString.IsText.exists_eq_ofText h
    rw [encodeAt, encodeString_ofText]
    exact readValue_string (readString_escaped t rest)
  | .arr [], depth, fuel, room + 1, rest, h, _, hfuel, _ => by
    obtain ⟨fuel, rfl⟩ := exists_fuel h hfuel
    rfl
  | .arr (item :: items), depth, fuel, room + 1, rest, h, hroom, hfuel, _ => by
    obtain ⟨fuel, rfl⟩ := exists_fuel h hfuel
    have hlength := length_onLines_add_two_le '[' ']' depth (encodeAt (depth + 1) item)
      (encodeItems (depth + 1) items)
    rw [encodeAt, encodeItems] at hfuel
    have hitems := readItems_encodeItems (item :: items) (depth + 1) depth fuel room rest
      (List.cons_ne_nil _ _) h (Nat.le_of_succ_le_succ hroom) (by rw [encodeItems]; omega)
    have hopens := (opens_encodeItems h.1 items (depth + 1)).append (lineBreak depth ++ ']' :: rest)
    rw [encodeAt, encodeItems, bracketed_cons_append, ← encodeItems]
    exact readValue_array hopens ((skipSpace_lineBreak _ _).trans hopens.skipSpace_eq) hitems
  | .obj [], depth, fuel, room + 1, rest, h, _, hfuel, _ => by
    obtain ⟨fuel, rfl⟩ := exists_fuel h hfuel
    rfl
  | .obj ((name, value) :: fields), depth, fuel, room + 1, rest, h, hroom, hfuel, _ => by
    obtain ⟨fuel, rfl⟩ := exists_fuel h hfuel
    have hlength := length_onLines_add_two_le '{' '}' depth
      (encodeString name ++ ':' :: ' ' :: encodeAt (depth + 1) value)
      (encodeFields (depth + 1) fields)
    rw [encodeAt, encodeFields] at hfuel
    have hfields := readFields_encodeFields ((name, value) :: fields) (depth + 1) depth fuel room
      rest (List.cons_ne_nil _ _) h.2 (Nat.le_of_succ_le_succ hroom) (by rw [encodeFields]; omega)
    have hopens := (opens_encodeFields (name, value) fields (depth + 1)).append
      (lineBreak depth ++ '}' :: rest)
    rw [encodeAt, encodeFields, bracketed_cons_append, ← encodeFields, ← ofFields_eq_obj h.1]
    exact readValue_object hopens ((skipSpace_lineBreak _ _).trans hopens.skipSpace_eq) hfields
  | .arr _, _, _, 0, _, _, hroom, _, _ => absurd hroom (Nat.not_succ_le_zero _)
  | .obj _, _, _, 0, _, _, hroom, _, _ => absurd hroom (Nat.not_succ_le_zero _)

/-- Written items are read up to the bracket behind them. -/
theorem readItems_encodeItems : ∀ (items : List Json) (depth after fuel room : Nat) (rest : Text),
    items ≠ [] → PortableItems items → heightItems items ≤ room →
      2 * (onLines depth (encodeItems depth items)).length + 1 ≤ fuel →
        readItems fuel room (onLines depth (encodeItems depth items) ++
          (lineBreak after ++ ']' :: rest)) = .ok (items, rest)
  | [], _, _, _, _, _, hne, _, _, _ => absurd rfl hne
  | [item], depth, after, fuel + 1, room, rest, _, h, hroom, hfuel => by
    rw [heightItems] at hroom
    have hitem := readValue_encodeAt item depth fuel room (lineBreak after ++ ']' :: rest) h.1
      (by omega) (Nat.le_of_succ_le_succ hfuel) (endsNumber_lineBreak _ _)
    refine readItems_last hitem ?_
    rw [skipSpace_lineBreak, skipSpace_cons rfl]
  | item :: item' :: items, depth, after, fuel + 1, room, rest, _, h, hroom, hfuel => by
    rw [heightItems] at hroom
    rw [encodeItems, encodeItems, onLines_cons_cons, ← encodeItems] at hfuel ⊢
    simp only [List.length_append, List.length_cons] at hfuel
    rw [List.append_assoc, List.cons_append, List.append_assoc]
    have hitems := readItems_encodeItems (item' :: items) depth after fuel room rest
      (List.cons_ne_nil _ _) h.2 (by omega) (by omega)
    have hopens := (opens_encodeItems h.2.1 items depth).append (lineBreak after ++ ']' :: rest)
    refine readItems_next (readValue_encodeAt item depth fuel room _ h.1 (by omega) (by omega)
      (endsNumber_comma _)) (skipSpace_cons rfl) ?_
    rw [skipSpace_lineBreak, hopens.skipSpace_eq]
    exact hitems

/-- Written fields are read up to the bracket behind them. -/
theorem readFields_encodeFields : ∀ (fields : List (CodeString × Json))
    (depth after fuel room : Nat) (rest : Text), fields ≠ [] → PortableFields fields →
      heightFields fields ≤ room →
      2 * (onLines depth (encodeFields depth fields)).length + 1 ≤ fuel →
        readFields fuel room (onLines depth (encodeFields depth fields) ++
          (lineBreak after ++ '}' :: rest)) = .ok (fields, rest)
  | [], _, _, _, _, _, hne, _, _, _ => absurd rfl hne
  | [(name, value)], depth, after, fuel + 1, room, rest, _, h, hroom, hfuel => by
    rw [heightFields] at hroom
    obtain ⟨t, rfl⟩ := CodeString.IsText.exists_eq_ofText h.1
    rw [encodeFields, encodeFields, onLines, Text.joinWith] at hfuel ⊢
    simp only [List.length_append, List.length_cons] at hfuel
    have hvalue := readValue_encodeAt value depth fuel room (lineBreak after ++ '}' :: rest) h.2.1
      (by omega) (by omega) (endsNumber_lineBreak _ _)
    rw [encodeField_append]
    refine readFields_last (readString_escaped t _) (skipSpace_cons rfl)
      ((congrArg _ ((opens_encodeAt h.2.1 depth).append _).skipSpace_eq).trans hvalue) ?_
    rw [skipSpace_lineBreak, skipSpace_cons rfl]
  | (name, value) :: (name', value') :: fields, depth, after, fuel + 1, room, rest, _, h, hroom,
      hfuel => by
    rw [heightFields] at hroom
    obtain ⟨t, rfl⟩ := CodeString.IsText.exists_eq_ofText h.1
    rw [encodeFields, encodeFields, onLines_cons_cons, ← encodeFields] at hfuel ⊢
    simp only [List.length_append, List.length_cons] at hfuel
    have hfields := readFields_encodeFields ((name', value') :: fields) depth after fuel room rest
      (List.cons_ne_nil _ _) h.2.2 (by omega) (by omega)
    rw [List.append_assoc, encodeField_append, List.cons_append, List.append_assoc]
    have hvalue := readValue_encodeAt value depth fuel room
      (',' :: (lineBreak depth ++ (onLines depth (encodeFields depth ((name', value') :: fields)) ++
        (lineBreak after ++ '}' :: rest)))) h.2.1 (by omega) (by omega) (endsNumber_comma _)
    have hopens := (opens_encodeFields (name', value') fields depth).append
      (lineBreak after ++ '}' :: rest)
    refine readFields_next (readString_escaped t _) (skipSpace_cons rfl)
      ((congrArg _ ((opens_encodeAt h.2.1 depth).append _).skipSpace_eq).trans hvalue)
      (skipSpace_cons rfl) ?_
    rw [skipSpace_lineBreak, hopens.skipSpace_eq]
    exact hfields

end

/-! ## What is written is plain text -/

/-- A character of written values: a visible one or a newline. -/
def IsWritten (c : Char) : Prop := c = '\n' ∨ IsVisible c

theorem IsVisible.isWritten (h : IsVisible c) : IsWritten c := .inr h

theorem IsWritten.toNat_lt (h : IsWritten c) : c.toNat < 0x80 := by
  rcases h with rfl | h
  · decide
  · exact Nat.lt_of_le_of_lt h.2 (by decide)

theorem isWritten_lineBreak (depth : Nat) : ∀ c ∈ lineBreak depth, IsWritten c := by
  refine List.forall_mem_cons.2 ⟨.inl rfl, fun c hc ↦ ?_⟩
  rw [List.eq_of_mem_replicate hc]
  exact .inr ⟨by decide, by decide⟩

theorem isWritten_onLines {depth : Nat} {items : List Text}
    (h : ∀ t ∈ items, ∀ c ∈ t, IsWritten c) : ∀ c ∈ onLines depth items, IsWritten c := by
  induction items with
  | nil => rintro c ⟨⟩
  | cons t ts ih =>
    obtain ⟨ht, hts⟩ := List.forall_mem_cons.1 h
    cases ts with
    | nil => exact ht
    | cons t' ts =>
      rw [onLines_cons_cons]
      refine List.forall_mem_append.2 ⟨ht, List.forall_mem_cons.2 ⟨.inr ⟨by decide, by decide⟩, ?_⟩⟩
      exact List.forall_mem_append.2 ⟨isWritten_lineBreak depth, ih hts⟩

theorem isWritten_bracketed {left right : Char} (hleft : IsVisible left) (hright : IsVisible right)
    {depth : Nat} {items : List Text} (h : ∀ t ∈ items, ∀ c ∈ t, IsWritten c) :
    ∀ c ∈ bracketed left right depth items, IsWritten c := by
  cases items with
  | nil => simpa [bracketed] using ⟨hleft.isWritten, hright.isWritten⟩
  | cons t ts =>
    rw [← List.append_nil (bracketed _ _ _ _), bracketed_cons_append]
    refine List.forall_mem_cons.2 ⟨hleft.isWritten, List.forall_mem_append.2
      ⟨isWritten_lineBreak _, List.forall_mem_append.2 ⟨isWritten_onLines h,
        List.forall_mem_append.2 ⟨isWritten_lineBreak _, ?_⟩⟩⟩⟩
    exact List.forall_mem_singleton.2 hright.isWritten

theorem isVisible_of_isDigit (h : c.isDigit = true) : IsVisible c := by
  simp only [Char.isDigit, Bool.and_eq_true, decide_eq_true_eq] at h
  exact ⟨Nat.le_trans (by decide) h.1, Nat.le_trans h.2 (by decide)⟩

theorem isVisible_toString_int (n : Int) : ∀ c ∈ (toString n).toList, IsVisible c := by
  have hdigits : ∀ c ∈ Nat.toDigits 10 n.natAbs, IsVisible c := fun c hc ↦
    isVisible_of_isDigit (Nat.isDigit_of_mem_toDigits (by decide) (by decide) hc)
  rw [toList_toString_int]
  split
  · exact List.forall_mem_cons.2 ⟨⟨by decide, by decide⟩, hdigits⟩
  · exact hdigits

mutual

theorem isWritten_encodeAt : ∀ (v : Json) (depth : Nat), v.Portable →
    ∀ c ∈ encodeAt depth v, IsWritten c
  | .null, _, _ => by
    simp [encodeAt, IsWritten, IsVisible]
  | .bool b, _, _ => by
    cases b <;> simp [encodeAt, IsWritten, IsVisible]
  | .int n, _, _ => fun c hc ↦ (isVisible_toString_int n c hc).isWritten
  | .float x, _, h => h.elim
  | .str s, _, _ => fun c hc ↦ (isVisible_encodeString s c hc).isWritten
  | .arr items, depth, h =>
    isWritten_bracketed ⟨by decide, by decide⟩ ⟨by decide, by decide⟩
      (isWritten_encodeItems items (depth + 1) h)
  | .obj fields, depth, h =>
    isWritten_bracketed ⟨by decide, by decide⟩ ⟨by decide, by decide⟩
      (isWritten_encodeFields fields (depth + 1) h.2)

theorem isWritten_encodeItems : ∀ (items : List Json) (depth : Nat), PortableItems items →
    ∀ t ∈ encodeItems depth items, ∀ c ∈ t, IsWritten c
  | [], _, _ => fun _ ht ↦ nomatch ht
  | item :: items, depth, h => List.forall_mem_cons.2
    ⟨isWritten_encodeAt item depth h.1, isWritten_encodeItems items depth h.2⟩

theorem isWritten_encodeFields : ∀ (fields : List (CodeString × Json)) (depth : Nat),
    PortableFields fields → ∀ t ∈ encodeFields depth fields, ∀ c ∈ t, IsWritten c
  | [], _, _ => fun _ ht ↦ nomatch ht
  | (name, value) :: fields, depth, h => by
    refine List.forall_mem_cons.2 ⟨?_, isWritten_encodeFields fields depth h.2.2⟩
    have hname : ∀ c ∈ encodeString name, IsWritten c := fun c hc ↦
      (isVisible_encodeString name c hc).isWritten
    have hvalue := isWritten_encodeAt value depth h.2.1
    exact List.forall_mem_append.2 ⟨hname, List.forall_mem_cons.2 ⟨.inr ⟨by decide, by decide⟩,
      List.forall_mem_cons.2 ⟨.inr ⟨by decide, by decide⟩, hvalue⟩⟩⟩

end

/-! ## Whole texts -/

variable {v : Json}

/-- **A written text is read back**, unless its brackets are nested deeper than is read. White space
behind it does not matter. -/
theorem read_encode_append {rest : Text} (h : v.Portable) (hheight : v.height ≤ maxDepth)
    (hend : EndsNumber rest) (hspace : skipSpace rest = []) :
    read (String.ofList (v.encode.toList ++ rest)) = .ok v := by
  have hread : readValue (2 * (encodeAt 0 v ++ rest).length + 2) maxDepth
      (encodeAt 0 v ++ rest) = .ok (v, rest) := by
    refine readValue_encodeAt v 0 _ maxDepth rest h hheight ?_ hend
    rw [List.length_append]
    omega
  have hskip : skipSpace (encodeAt 0 v ++ rest) = encodeAt 0 v ++ rest :=
    ((opens_encodeAt h 0).append rest).skipSpace_eq
  have hmark : ∀ cs, encodeAt 0 v ++ rest ≠ '\ufeff' :: cs := by
    obtain ⟨c, more, hc, -⟩ := opens_encodeAt h 0
    have hwritten := (isWritten_encodeAt v 0 h c (hc ▸ List.mem_cons_self)).toNat_lt
    rw [hc]
    rintro cs hcs
    rw [(List.cons.inj hcs).1] at hwritten
    exact absurd hwritten (by decide)
  have htext : readText (encodeAt 0 v ++ rest) = .ok v := by
    rw [readText]
    · rw [hskip, hread]
      simp only [bind, Except.bind, hspace, pure, Except.pure]
    · exact hmark
  rw [read, encode, String.toList_ofList, String.toList_ofList, htext]
  rfl

theorem read_encode (h : v.Portable) (hheight : v.height ≤ maxDepth) : read v.encode = .ok v := by
  have hread := read_encode_append h hheight endsNumber_nil rfl
  rwa [List.append_nil, String.ofList_toList] at hread

end ShaderDowngrade.Json
