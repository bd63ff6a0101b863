import Cordon.Json.Printer
import Cordon.Json.Reader
import Mathlib.Data.List.Basic

/-! # Texts that are read back

A value that is written as a text is read back from it (`readRaw_compress`), if there are no numbers
in it and it is not nested too deeply.  Every character of a text comes back from its escape
(`readText_escapeChar`); what is read of a value ends where the value ends, whatever stands behind
(`readValue_compress`).
-/

namespace Cordon.Json

/-! ## Characters and texts -/

theorem hexDigit_hexChar : ∀ n, n < 16 → hexDigit (hexChar n) = some n := by
  decide

theorem hexValue_escape {c : Char} (hc : c.toNat < 32) :
    hexValue '0' '0' (hexChar (c.toNat / 16)) (hexChar (c.toNat % 16)) = some c.toNat := by
  have hzero : hexDigit '0' = some 0 := by decide
  have hhigh := hexDigit_hexChar (c.toNat / 16) (by omega)
  have hlow := hexDigit_hexChar (c.toNat % 16) (by omega)
  have hsum : c.toNat / 16 * 16 + c.toNat % 16 = c.toNat := by omega
  simp [hexValue, hzero, hhigh, hlow, hsum]

theorem readCodePoint_escape {c : Char} (hc : c.toNat < 32) (text : List Char) :
    readCodePoint ('0' :: '0' :: hexChar (c.toNat / 16) :: hexChar (c.toNat % 16) :: text) =
      .ok (.ok c, text) := by
  have hhex : readHex ('0' :: '0' :: hexChar (c.toNat / 16) :: hexChar (c.toNat % 16) :: text) =
      .ok (c.toNat, text) := by
    simp only [readHex, hexValue_escape hc]
  rw [readCodePoint, hhex]
  show (if 0xDC00 ≤ c.toNat ∧ c.toNat ≤ 0xDFFF then _ else _) = _
  rw [if_neg (by omega), if_neg (by omega), Char.ofNat_toNat]
  rfl

/-- A character is read from its escape. -/
theorem readText_escapeChar (strict : Bool) (n : Nat) (acc : List Char) (c : Char)
    (text : List Char) :
    readText strict (n + 1) acc none (escapeChar c ++ text) =
      readText strict n (c :: acc) none text := by
  unfold escapeChar
  split
  · next h => subst h; rfl
  split
  · next h => subst h; rfl
  split
  · next h => subst h; rfl
  split
  · next h => subst h; rfl
  split
  · next h => subst h; rfl
  -- Two of the short escapes are of characters that are given by their numbers.
  split
  · next h =>
    obtain rfl : c = Char.ofNat 8 := by rw [← h, Char.ofNat_toNat]
    rfl
  split
  · next h =>
    obtain rfl : c = Char.ofNat 12 := by rw [← h, Char.ofNat_toNat]
    rfl
  split
  · next h =>
    have hescape := readCodePoint_escape h text
    simp only [List.cons_append, List.nil_append, readText, readEscape, hescape]
    rfl
  · next hquote _ _ _ _ _ _ h => simp [readText, hquote, h]

/-- A text is read from its escapes, up to the quote behind it. -/
theorem readText_flatMap (strict : Bool) (s : List Char) {n : Nat} (acc rest : List Char)
    (hn : s.length ≤ n) : readText strict n acc none (s.flatMap escapeChar ++ '"' :: rest) =
      .ok (.ok (String.ofList (acc.reverse ++ s)), rest) := by
  induction s generalizing n acc with
  | nil => cases n <;> simp [readText]
  | cons c s ih =>
    obtain ⟨n, rfl⟩ : ∃ m, n = m + 1 := ⟨n - 1, by simp at hn; omega⟩
    rw [List.flatMap_cons, List.append_assoc, readText_escapeChar, ih _ (by simpa using hn)]
    simp

theorem length_le_flatMap (s : List Char) : s.length ≤ (s.flatMap escapeChar).length := by
  have hone : ∀ c, 1 ≤ (escapeChar c).length := by
    intro c
    unfold escapeChar
    repeat' split
    all_goals simp
  induction s with
  | nil => simp
  | cons c s ih =>
    have := hone c
    rw [List.flatMap_cons, List.length_append, List.length_cons]
    omega

theorem toList_quote (s : String) :
    (quote s).toList = '"' :: (s.toList.flatMap escapeChar ++ ['"']) := by
  rw [quote, String.toList_ofList]
  rfl

/-- A quoted text is read up to its end. -/
theorem readText_quote (strict : Bool) (s : String) (rest : List Char) :
    readText strict (s.toList.flatMap escapeChar ++ '"' :: rest).length [] none
      (s.toList.flatMap escapeChar ++ '"' :: rest) = .ok (.ok s, rest) := by
  rw [readText_flatMap strict s.toList [] rest]
  · simp
  · have := length_le_flatMap s.toList
    rw [List.length_append]
    omega

/-! ## Values -/

/-- There are no numbers, and lists and objects are nested no deeper than this. -/
def Plain : Nat → Json → Prop
  | _, .null | _, .bool _ | _, .str _ => True
  | n + 1, .arr items => ∀ j ∈ items, Plain n j
  | n + 1, .obj es => ∀ e ∈ es, Plain n e.2
  | _, _ => False

theorem Plain.mono {n m : Nat} {j : Json} (h : Plain n j) (hnm : n ≤ m) : Plain m j := by
  induction n generalizing m j with
  | zero => cases j <;> first | exact h.elim | (cases m <;> trivial)
  | succ n ih =>
    obtain ⟨m, rfl⟩ : ∃ m', m = m' + 1 := ⟨m - 1, by omega⟩
    have hle : n ≤ m := Nat.le_of_succ_le_succ hnm
    cases j with
    | null | bool _ | str _ => trivial
    | num _ => exact h.elim
    | arr items => exact fun j hj => ih (h j hj) hle
    | obj es => exact fun e he => ih (h e he) hle

/-- What a value begins with. -/
def IsHead (c : Char) : Prop := c ∈ ['n', 't', 'f', '"', '[', '\x7b']

theorem toList_compress_arr (items : List Json) :
    (compress (.arr items)).toList = '[' :: ((compressItems true items).toList ++ [']']) := by
  simp [compress]

theorem toList_compress_obj (es : List (String × Json)) :
    (compress (.obj es)).toList =
      '\x7b' :: ((compressEntries true es).toList ++ ['\x7d']) := by
  simp [compress]

theorem head_compress {n : Nat} {j : Json} (h : Plain n j) :
    ∃ c text, (compress j).toList = c :: text ∧ IsHead c := by
  cases j with
  | null => exact ⟨'n', _, rfl, by simp [IsHead]⟩
  | bool b =>
    cases b with
    | true => exact ⟨'t', _, rfl, by simp [IsHead]⟩
    | false => exact ⟨'f', _, rfl, by simp [IsHead]⟩
  | num x => cases n <;> exact h.elim
  | str s => exact ⟨'"', _, by rw [compress, toList_quote], by simp [IsHead]⟩
  | arr items => exact ⟨'[', _, toList_compress_arr items, by simp [IsHead]⟩
  | obj es => exact ⟨'\x7b', _, toList_compress_obj es, by simp [IsHead]⟩

/-- A value is read up to its end. -/
def ReadsBack (n : Nat) (j : Json) : Prop :=
  ∀ strict fuel depth rest, n ≤ depth → 2 * (compress j).toList.length ≤ fuel →
    readValue strict fuel depth ((compress j).toList ++ rest) = .ok (Raw.of j, rest)

section Parts

variable {strict first : Bool} {n fuel depth : Nat} {c : Char} {text rest : List Char}
  {items : List Json} {es : List (String × Json)}

/-- Reads an item and then the ones behind it. -/
def readMore (strict : Bool) (fuel depth : Nat) (text : List Char) :
    Except Failure (List Raw × List Char) := do
  let (item, rest) ← readValue strict fuel depth text
  let (items, rest) ← readItems strict fuel depth false rest
  pure (item :: items, rest)

theorem readItems_first (hc : IsHead c) :
    readItems strict (fuel + 1) depth true (c :: text) =
      readMore strict fuel depth (c :: text) := by
  simp only [IsHead, List.mem_cons, List.not_mem_nil, or_false] at hc
  obtain rfl | rfl | rfl | rfl | rfl | rfl := hc <;> rfl

theorem readItems_next (hc : IsHead c) :
    readItems strict (fuel + 1) depth false (',' :: c :: text) =
      readMore strict fuel depth (c :: text) := by
  simp only [IsHead, List.mem_cons, List.not_mem_nil, or_false] at hc
  obtain rfl | rfl | rfl | rfl | rfl | rfl := hc <;> rfl

theorem readItems_compress (hplain : ∀ j ∈ items, Plain n j) (hitems : ∀ j ∈ items, ReadsBack n j)
    (hdepth : n ≤ depth) (hfuel : 2 * (compressItems first items).toList.length + 1 ≤ fuel) :
    readItems strict fuel depth first ((compressItems first items).toList ++ ']' :: rest) =
      .ok (Raw.ofItems items, rest) := by
  induction items generalizing first fuel with
  | nil =>
    obtain ⟨fuel, rfl⟩ : ∃ m, fuel = m + 1 := ⟨fuel - 1, by omega⟩
    rfl
  | cons j items ih =>
    obtain ⟨fuel, rfl⟩ : ∃ m, fuel = m + 1 := ⟨fuel - 1, by omega⟩
    obtain ⟨c, text, hj, hc⟩ := head_compress (hplain j (by simp))
    -- Every value has a character, so that the fuel lasts for the items behind it.
    have hlength : 0 < (compress j).toList.length := by simp [hj]
    have hsplit : (compressItems first (j :: items)).toList =
        (if first then [] else [',']) ++ (compress j).toList ++
          (compressItems false items).toList := by
      cases first <;> simp [compressItems]
    rw [hsplit] at hfuel ⊢
    simp only [List.length_append] at hfuel
    have hmore : readMore strict fuel depth
        ((compress j).toList ++ ((compressItems false items).toList ++ ']' :: rest)) =
          .ok (Raw.ofItems (j :: items), rest) := by
      rw [readMore, hitems j (by simp) strict fuel depth _ hdepth (by omega)]
      show (readItems strict fuel depth false _ >>= _) = _
      rw [ih (fun j' hj' => hplain j' (by simp [hj'])) (fun j' hj' => hitems j' (by simp [hj']))
        (by omega)]
      rfl
    rw [hj] at hmore ⊢
    cases first with
    | true => simpa using (readItems_first hc).trans hmore
    | false => simpa using (readItems_next hc).trans hmore

/-- Reads a key, its value and then the entries behind them. -/
def readEntry (strict : Bool) (fuel depth : Nat) (text : List Char) :
    Except Failure (List (Characters × Raw) × List Char) := do
  let (key, rest) ← readText strict text.length [] none text
  match skipBlanks rest with
  | [] => failNext .endInObject []
  | ':' :: rest =>
    let (value, rest) ← readValue strict fuel depth rest
    let (entries, rest) ← readEntries strict fuel depth false rest
    pure ((key, value) :: entries, rest)
  | rest => failNext .expectedColon rest

theorem readEntries_first : readEntries strict (fuel + 1) depth true ('"' :: text) =
    readEntry strict fuel depth text := rfl

theorem readEntries_next : readEntries strict (fuel + 1) depth false (',' :: '"' :: text) =
    readEntry strict fuel depth text := rfl

theorem readEntries_compress (hes : ∀ e ∈ es, ReadsBack n e.2) (hdepth : n ≤ depth)
    (hfuel : 2 * (compressEntries first es).toList.length + 1 ≤ fuel) :
    readEntries strict fuel depth first ((compressEntries first es).toList ++ '\x7d' :: rest) =
      .ok (es.map fun e => (.ok e.1, Raw.of e.2), rest) := by
  induction es generalizing first fuel with
  | nil =>
    obtain ⟨fuel, rfl⟩ : ∃ m, fuel = m + 1 := ⟨fuel - 1, by omega⟩
    rfl
  | cons e es ih =>
    obtain ⟨k, j⟩ := e
    obtain ⟨fuel, rfl⟩ : ∃ m, fuel = m + 1 := ⟨fuel - 1, by omega⟩
    have hsplit : (compressEntries first ((k, j) :: es)).toList =
        (if first then [] else [',']) ++ '"' :: (k.toList.flatMap escapeChar ++ '"' :: ':' ::
          ((compress j).toList ++ (compressEntries false es).toList)) := by
      cases first <;> simp [compressEntries, toList_quote]
    rw [hsplit] at hfuel ⊢
    simp only [List.length_append, List.length_cons] at hfuel
    have hmore : readEntry strict fuel depth (k.toList.flatMap escapeChar ++ '"' :: ':' ::
        ((compress j).toList ++ ((compressEntries false es).toList ++ '\x7d' :: rest))) =
          .ok (((k, j) :: es).map fun e => (.ok e.1, Raw.of e.2), rest) := by
      have hj : ReadsBack n j := hes (k, j) (by simp)
      rw [readEntry, readText_quote]
      show (readValue strict fuel depth _ >>= _) = _
      rw [hj strict fuel depth _ hdepth (by omega)]
      show (readEntries strict fuel depth false _ >>= _) = _
      rw [ih (fun e he => hes e (by simp [he])) (by omega)]
      rfl
    cases first with
    | true => simpa using readEntries_first.trans hmore
    | false => simpa using readEntries_next.trans hmore

end Parts

theorem ofMembers_ok (es : List (String × Json)) :
    Raw.ofMembers (es.map fun e => (.ok e.1, Raw.of e.2)) = Raw.of (.obj es) := by
  have hkeys : (es.map fun e => ((.ok e.1 : Characters), Raw.of e.2)).mapM
      (fun e => e.1.map (·, e.2)) = .ok (Raw.ofEntries es) := by
    induction es with
    | nil => rfl
    | cons e rest ih =>
      rw [List.map_cons, List.mapM_cons, ih]
      rfl
  rw [Raw.ofMembers, hkeys]
  rfl

theorem readsBack_str (n : Nat) (s : String) : ReadsBack n (.str s) := by
  intro strict fuel depth rest _ hfuel
  rw [compress, toList_quote] at hfuel ⊢
  obtain ⟨fuel, rfl⟩ : ∃ m, fuel = m + 1 := ⟨fuel - 1, by simp at hfuel; omega⟩
  have htext := readText_quote strict s rest
  rw [List.cons_append, List.append_assoc]
  show (readText strict _ [] none _ >>= _) = _
  rw [List.singleton_append, htext]
  rfl

/-- What is read of a value ends where the value ends. -/
theorem readValue_compress : {n : Nat} → {j : Json} → Plain n j → ReadsBack n j
  | _, .null, _ => by
    intro strict fuel depth rest _ hfuel
    obtain ⟨fuel, rfl⟩ : ∃ m, fuel = m + 1 := ⟨fuel - 1, by simp [compress] at hfuel; omega⟩
    rfl
  | _, .bool true, _ => by
    intro strict fuel depth rest _ hfuel
    obtain ⟨fuel, rfl⟩ : ∃ m, fuel = m + 1 := ⟨fuel - 1, by simp [compress] at hfuel; omega⟩
    rfl
  | _, .bool false, _ => by
    intro strict fuel depth rest _ hfuel
    obtain ⟨fuel, rfl⟩ : ∃ m, fuel = m + 1 := ⟨fuel - 1, by simp [compress] at hfuel; omega⟩
    rfl
  | n, .str s, _ => readsBack_str n s
  | 0, .num _, h | _ + 1, .num _, h | 0, .arr _, h | 0, .obj _, h => h.elim
  | n + 1, .arr items, h => by
    intro strict fuel depth rest hdepth hfuel
    rw [toList_compress_arr] at hfuel ⊢
    simp only [List.length_cons, List.length_append, List.length_nil] at hfuel
    obtain ⟨fuel, rfl⟩ : ∃ m, fuel = m + 1 := ⟨fuel - 1, by omega⟩
    obtain ⟨depth, rfl⟩ : ∃ m, depth = m + 1 := ⟨depth - 1, by omega⟩
    have hitems : readItems strict fuel depth true
        ((compressItems true items).toList ++ ']' :: rest) = .ok (Raw.ofItems items, rest) :=
      readItems_compress h (fun j hj => readValue_compress (h j hj))
        (Nat.le_of_succ_le_succ hdepth) (by omega)
    rw [List.cons_append, List.append_assoc, List.singleton_append]
    show (if strict = true ∧ depth + 1 = 0 then _ else readItems strict fuel depth true _ >>= _) = _
    rw [if_neg (by simp), hitems]
    rfl
  | n + 1, .obj es, h => by
    intro strict fuel depth rest hdepth hfuel
    rw [toList_compress_obj] at hfuel ⊢
    simp only [List.length_cons, List.length_append, List.length_nil] at hfuel
    obtain ⟨fuel, rfl⟩ : ∃ m, fuel = m + 1 := ⟨fuel - 1, by omega⟩
    obtain ⟨depth, rfl⟩ : ∃ m, depth = m + 1 := ⟨depth - 1, by omega⟩
    have hentries : readEntries strict fuel depth true
        ((compressEntries true es).toList ++ '\x7d' :: rest) =
          .ok (es.map fun e => (.ok e.1, Raw.of e.2), rest) :=
      readEntries_compress (fun e he => readValue_compress (h e he))
        (Nat.le_of_succ_le_succ hdepth) (by omega)
    rw [List.cons_append, List.append_assoc, List.singleton_append]
    show (if strict = true ∧ depth + 1 = 0 then _
      else readEntries strict fuel depth true _ >>= _) = _
    rw [if_neg (by simp), hentries]
    exact congrArg (fun r => Except.ok (r, rest)) (ofMembers_ok es)

/-- A value without numbers that is not nested too deeply comes back from its text. -/
theorem readRaw_compress {n : Nat} {j : Json} (h : Plain n j) (hn : n ≤ 127) :
    readRaw (compress j) = some (Raw.of j) := by
  -- A character spends two of the fuel at most: one for the value, one for the list it is in.
  have hvalue := readValue_compress h false (2 * (compress j).toList.length + 2) 127 [] hn
    (by omega)
  rw [List.append_nil] at hvalue
  rw [readRaw, readAll, hvalue]
  rfl

/-! ## Objects that are written -/

theorem mem_putEntry {k : String} {v : Json} {es : List (String × Json)} {e : String × Json}
    (h : e ∈ putEntry k v es) : e = (k, v) ∨ e ∈ es := by
  induction es with
  | nil => simpa [putEntry] using h
  | cons e' rest ih =>
    obtain ⟨k', v'⟩ := e'
    rw [putEntry] at h
    split at h
    · simpa using h
    · split at h
      · rcases List.mem_cons.1 h with rfl | h
        · exact .inr (by simp)
        · exact (ih h).imp_right (List.mem_cons_of_mem _)
      · rcases List.mem_cons.1 h with rfl | h
        · exact .inl rfl
        · exact .inr (List.mem_cons_of_mem _ h)

theorem plain_object {n : Nat} {es : List (String × Json)} (h : ∀ e ∈ es, Plain n e.2) :
    Plain (n + 1) (object es) := by
  have hfold : ∀ acc : List (String × Json), (∀ e ∈ acc, Plain n e.2) →
      ∀ e ∈ es.foldl (fun acc e => putEntry e.1 e.2 acc) acc, Plain n e.2 := by
    induction es with
    | nil => exact fun acc hacc => hacc
    | cons e rest ih =>
      intro acc hacc
      refine ih (fun e' he' => h e' (List.mem_cons_of_mem _ he')) _ fun e' he' => ?_
      rcases mem_putEntry he' with rfl | he'
      · exact h e (by simp)
      · exact hacc e' he'
  exact hfold [] (by simp)

theorem plain_objectOf {n : Nat} {fields : List (String × Option Json)}
    (h : ∀ e ∈ fields, ∀ j, e.2 = some j → Plain n j) : Plain (n + 1) (objectOf fields) := by
  refine plain_object fun e he => ?_
  obtain ⟨f, hf, heq⟩ := List.mem_filterMap.1 he
  obtain ⟨j, hj, rfl⟩ := Option.map_eq_some_iff.1 heq
  exact h f hf j hj

theorem plain_arr {α : Type} {n : Nat} {f : α → Json} {l : List α} (h : ∀ a ∈ l, Plain n (f a)) :
    Plain (n + 1) (.arr (l.map f)) := by
  intro j hj
  obtain ⟨a, ha, rfl⟩ := List.mem_map.1 hj
  exact h a ha

end Cordon.Json
