import ClaimOperator.Cluster.Target
import Mathlib.Data.List.Basic

/-! Targets of paths that are put together from segments.

Segments that hold no mark of their own are all found in the target again, each in its written form. A text
without a percent sign is told by its written form: the escapes in it can be read back to its bytes.
-/

set_option autoImplicit false

namespace ClaimOperator

namespace Text

variable {mark : Char} {text rest : List Char} {pieces others : List (List Char)}

theorem splitAtFirst_of_not_mem (free : mark ∉ text) : splitAtFirst mark text = (text, none) := by
  induction text with
  | nil => rfl
  | cons c rest ih =>
    obtain ⟨here, later⟩ := List.ne_and_not_mem_of_not_mem_cons free
    rw [splitAtFirst, if_neg (Ne.symm here), ih later]

theorem splitAtEach_of_not_mem (free : mark ∉ text) : splitAtEach mark text = [text] := by
  induction text with
  | nil => rfl
  | cons c rest ih =>
    obtain ⟨here, later⟩ := List.ne_and_not_mem_of_not_mem_cons free
    rw [splitAtEach, if_neg (Ne.symm here), ih later]

theorem splitAtEach_append (free : mark ∉ text) (rest : List Char) :
    splitAtEach mark (text ++ mark :: rest) = text :: splitAtEach mark rest := by
  induction text with
  | nil => simp [splitAtEach]
  | cons c text ih =>
    obtain ⟨here, later⟩ := List.ne_and_not_mem_of_not_mem_cons free
    rw [List.cons_append, splitAtEach, if_neg (Ne.symm here), ih later]

theorem joinWith_cons_cons (mark : Char) (first second : List Char) (rest : List (List Char)) :
    joinWith mark (first :: second :: rest) = first ++ mark :: joinWith mark (second :: rest) := by
  simp [joinWith, List.intercalate]

theorem splitAtEach_joinWith (present : pieces ≠ []) (free : ∀ piece ∈ pieces, mark ∉ piece) :
    splitAtEach mark (joinWith mark pieces) = pieces := by
  induction pieces with
  | nil => exact absurd rfl present
  | cons first rest ih =>
    have here := free first List.mem_cons_self
    cases rest with
    | nil => simpa [joinWith, List.intercalate] using splitAtEach_of_not_mem here
    | cons second rest =>
      have later := ih (List.cons_ne_nil second rest) fun piece member => free piece (List.mem_cons_of_mem _ member)
      rw [joinWith_cons_cons, splitAtEach_append here, later]

theorem joinWith_injOn (present : pieces ≠ []) (filled : others ≠ []) (free : ∀ piece ∈ pieces, mark ∉ piece)
    (clear : ∀ piece ∈ others, mark ∉ piece) (same : joinWith mark pieces = joinWith mark others) :
    pieces = others := by
  rw [← splitAtEach_joinWith present free, same, splitAtEach_joinWith filled clear]

theorem mem_joinWith {c : Char} (found : c ∈ joinWith mark pieces) : c = mark ∨ ∃ piece ∈ pieces, c ∈ piece := by
  induction pieces with
  | nil => simp [joinWith, List.intercalate] at found
  | cons first rest ih =>
    cases rest with
    | nil => exact .inr ⟨first, List.mem_cons_self, by simpa [joinWith, List.intercalate] using found⟩
    | cons second rest =>
      rw [joinWith_cons_cons, List.mem_append, List.mem_cons] at found
      obtain here | rfl | later := found
      · exact .inr ⟨first, List.mem_cons_self, here⟩
      · exact .inl rfl
      · obtain isMark | ⟨piece, member, inside⟩ := ih later
        · exact .inl isMark
        · exact .inr ⟨piece, List.mem_cons_of_mem _ member, inside⟩

end Text

namespace Cluster.Target

open Text (joinWith)

variable {safe : Char → Bool} {text other : List Char} {pieces : List (List Char)} {c : Char}

/-! Written forms. -/

theorem percentEncode_cons (safe : Char → Bool) (c : Char) (text : List Char) :
    percentEncode safe (c :: text) =
      (if safe c then [c] else (String.utf8EncodeChar c).flatMap percentByte) ++ percentEncode safe text := rfl

theorem percentEncode_append (safe : Char → Bool) (first second : List Char) :
    percentEncode safe (first ++ second) = percentEncode safe first ++ percentEncode safe second :=
  List.flatMap_append

theorem percentEncode_joinWith {mark : Char} (kept : safe mark = true) (pieces : List (List Char)) :
    percentEncode safe (joinWith mark pieces) = joinWith mark (pieces.map (percentEncode safe)) := by
  induction pieces with
  | nil => rfl
  | cons first rest ih =>
    cases rest with
    | nil => simp [joinWith, List.intercalate]
    | cons second rest =>
      rw [Text.joinWith_cons_cons, percentEncode_append, percentEncode_cons, if_pos kept, ih]
      simp only [List.map_cons, Text.joinWith_cons_cons, List.singleton_append]

def isUpperHex (c : Char) : Bool := "0123456789ABCDEF".toList.contains c

theorem upperHexDigit_byte (byte : UInt8) :
    ∃ high low : Fin 16, byte.toNat = high.val * 16 + low.val ∧
      percentByte byte = ['%', upperHexDigit high.val, upperHexDigit low.val] := by
  have small := byte.toNat_lt
  refine ⟨⟨byte.toNat / 16, by omega⟩, ⟨byte.toNat % 16, by omega⟩, by simp only; omega, rfl⟩

theorem isUpperHex_upperHexDigit (digit : Fin 16) : isUpperHex (upperHexDigit digit.val) = true := by
  revert digit
  decide

theorem mem_percentEncode (found : c ∈ percentEncode safe text) :
    (c ∈ text ∧ safe c = true) ∨ c = '%' ∨ isUpperHex c = true := by
  obtain ⟨source, member, written⟩ := List.mem_flatMap.mp found
  split at written
  · rename_i kept
    cases List.mem_singleton.mp written
    exact .inl ⟨member, kept⟩
  · obtain ⟨byte, -, digit⟩ := List.mem_flatMap.mp written
    obtain ⟨high, low, -, escape⟩ := upperHexDigit_byte byte
    rw [escape] at digit
    simp only [List.mem_cons, List.not_mem_nil, or_false] at digit
    obtain rfl | rfl | rfl := digit
    · exact .inr (.inl rfl)
    · exact .inr (.inr (isUpperHex_upperHexDigit high))
    · exact .inr (.inr (isUpperHex_upperHexDigit low))

theorem percentEncode_of_not_mem (plain : '%' ∉ percentEncode safe text) : percentEncode safe text = text := by
  induction text with
  | nil => rfl
  | cons c text ih =>
    rw [percentEncode_cons, List.mem_append, not_or] at plain
    rw [percentEncode_cons, ih plain.2]
    cases kept : safe c with
    | true => rfl
    | false =>
      -- Every character has a byte, and every byte an escape.
      have escaped : '%' ∈ (String.utf8EncodeChar c).flatMap percentByte := by
        obtain ⟨byte, bytes, encoded⟩ := List.exists_cons_of_ne_nil (String.utf8EncodeChar_ne_nil (c := c))
        rw [encoded]
        simp [percentByte]
      rw [kept] at plain
      exact absurd escaped plain.1

/-! Reading escapes back. -/

def hexValue (c : Char) : Nat := if c.toNat < 58 then c.toNat - 48 else c.toNat - 55

def bytesOf : List Char → List UInt8
  | [] => []
  | '%' :: high :: low :: rest => UInt8.ofNat (hexValue high * 16 + hexValue low) :: bytesOf rest
  | c :: rest => String.utf8EncodeChar c ++ bytesOf rest

theorem hexValue_upperHexDigit (digit : Fin 16) : hexValue (upperHexDigit digit.val) = digit.val := by
  revert digit
  decide

theorem bytesOf_percentByte (byte : UInt8) (rest : List Char) :
    bytesOf (percentByte byte ++ rest) = byte :: bytesOf rest := by
  obtain ⟨high, low, value, escape⟩ := upperHexDigit_byte byte
  rw [escape, List.cons_append, List.cons_append, List.cons_append, List.nil_append, bytesOf]
  rw [hexValue_upperHexDigit, hexValue_upperHexDigit, ← value, UInt8.ofNat_toNat]

theorem bytesOf_percentBytes (bytes : List UInt8) (rest : List Char) :
    bytesOf (bytes.flatMap percentByte ++ rest) = bytes ++ bytesOf rest := by
  induction bytes with
  | nil => rfl
  | cons byte bytes ih =>
    rw [List.flatMap_cons, List.append_assoc, bytesOf_percentByte, ih, List.cons_append]

theorem bytesOf_cons (other : c ≠ '%') (rest : List Char) :
    bytesOf (c :: rest) = String.utf8EncodeChar c ++ bytesOf rest := by
  rw [bytesOf]
  intro _ _ _ same
  exact absurd same other

/-- A written form stands for the bytes of the text, unless the text looks like one itself. -/
theorem bytesOf_percentEncode (bare : '%' ∉ text) :
    bytesOf (percentEncode safe text) = text.flatMap String.utf8EncodeChar := by
  induction text with
  | nil => rfl
  | cons c text ih =>
    obtain ⟨here, later⟩ := List.ne_and_not_mem_of_not_mem_cons bare
    rw [percentEncode_cons, List.flatMap_cons, ← ih later]
    cases safe c with
    | true => exact bytesOf_cons (Ne.symm here) _
    | false => exact bytesOf_percentBytes _ _

theorem utf8_injective (same : text.flatMap String.utf8EncodeChar = other.flatMap String.utf8EncodeChar) :
    text = other := by
  have bytes : (String.ofList text).toByteArray = (String.ofList other).toByteArray := by
    rw [String.toByteArray_ofList, String.toByteArray_ofList, List.utf8Encode, List.utf8Encode, same]
  exact String.ofList_injective (String.toByteArray_inj.mp bytes)

theorem percentEncode_injOn (bare : '%' ∉ text) (plain : '%' ∉ other)
    (same : percentEncode safe text = percentEncode safe other) : text = other := by
  refine utf8_injective ?_
  calc text.flatMap String.utf8EncodeChar
      _ = bytesOf (percentEncode safe text) := (bytesOf_percentEncode bare).symm
      _ = bytesOf (percentEncode safe other) := by rw [same]
      _ = other.flatMap String.utf8EncodeChar := bytesOf_percentEncode plain

/-! Segments. -/

/-- A text that is one segment of a path: it has no mark in it, and moves nowhere. -/
structure IsSegment (text : List Char) : Prop where
  slash : '/' ∉ text
  question : '?' ∉ text
  number : '#' ∉ text
  dot : text ≠ ['.']
  dots : text ≠ ['.', '.']

instance (text : List Char) : Decidable (IsSegment text) :=
  decidable_of_iff ('/' ∉ text ∧ '?' ∉ text ∧ '#' ∉ text ∧ text ≠ ['.'] ∧ text ≠ ['.', '.'])
    ⟨fun ⟨slash, question, number, dot, dots⟩ => ⟨slash, question, number, dot, dots⟩,
      fun ⟨slash, question, number, dot, dots⟩ => ⟨slash, question, number, dot, dots⟩⟩

def written (segment : List Char) : List Char := percentEncode isPathSafe segment

theorem not_mem_written (isMark : c = '/' ∨ c = '?' ∨ c = '#') (free : c ∉ text) : c ∉ written text := by
  intro found
  obtain ⟨member, -⟩ | sign | digit := mem_percentEncode found
  · exact free member
  · obtain rfl | rfl | rfl := isMark <;> cases sign
  · obtain rfl | rfl | rfl := isMark <;> exact absurd digit (by decide)

theorem IsSegment.written (segment : IsSegment text) : IsSegment (written text) where
  slash := not_mem_written (.inl rfl) segment.slash
  question := not_mem_written (.inr (.inl rfl)) segment.question
  number := not_mem_written (.inr (.inr rfl)) segment.number
  dot same := by
    have kept : Target.written text = text := percentEncode_of_not_mem (by rw [← Target.written, same]; decide)
    exact segment.dot (kept.symm.trans same)
  dots same := by
    have kept : Target.written text = text := percentEncode_of_not_mem (by rw [← Target.written, same]; decide)
    exact segment.dots (kept.symm.trans same)

theorem resolveDots_of_segments (resolved : List (List Char)) (segments : ∀ piece ∈ pieces, IsSegment piece) :
    resolveDots resolved pieces = resolved ++ pieces := by
  induction pieces generalizing resolved with
  | nil => simp [resolveDots]
  | cons piece rest ih =>
    have segment := segments piece List.mem_cons_self
    have later := ih (resolved ++ [piece]) fun _ member => segments _ (List.mem_cons_of_mem _ member)
    rw [resolveDots, if_neg segment.dot, if_neg segment.dots, later, List.append_assoc, List.singleton_append]

theorem not_mem_joinWith (isMark : c = '?' ∨ c = '#') (segments : ∀ piece ∈ pieces, IsSegment piece) :
    c ∉ joinWith '/' pieces := by
  intro found
  obtain slash | ⟨piece, member, inside⟩ := Text.mem_joinWith found
  · obtain rfl | rfl := isMark <;> cases slash
  · have segment := segments piece member
    obtain rfl | rfl := isMark
    · exact segment.question inside
    · exact segment.number inside

theorem ofPath?_of_bare {path target : String} (question : '?' ∉ path.toList) (number : '#' ∉ path.toList)
    (addressed : ofPath? path = some target) :
    target.toList = rooted (resolvePath (percentEncode isPathSafe path.toList)) := by
  simp only [ofPath?, Text.splitAtFirst_of_not_mem number, Text.splitAtFirst_of_not_mem question, encode?,
    Option.map_none, Option.getD_none] at addressed
  split at addressed
  · cases addressed
  · split at addressed
    · rename_i written query fits
      split at fits
      · cases fits
      · cases fits
        cases addressed
        exact String.toList_ofList
    · cases addressed

/-- The target for a path has the segments of the path, each in its written form. -/
theorem ofPath?_of_segments {path target : String} {first : List Char}
    (joined : path.toList = joinWith '/' ([] :: first :: pieces))
    (segments : ∀ piece ∈ [] :: first :: pieces, IsSegment piece) (addressed : ofPath? path = some target) :
    target.toList = joinWith '/' (([] :: first :: pieces).map written) := by
  have encoded : ∀ piece ∈ ([] :: first :: pieces).map written, IsSegment piece := by
    intro piece member
    obtain ⟨source, here, rfl⟩ := List.mem_map.mp member
    exact (segments source here).written
  have joint : percentEncode isPathSafe path.toList = joinWith '/' (([] :: first :: pieces).map written) := by
    rw [joined, percentEncode_joinWith (by decide)]
    rfl
  rw [ofPath?_of_bare (joined ▸ not_mem_joinWith (.inl rfl) segments) (joined ▸ not_mem_joinWith (.inr rfl) segments)
    addressed, joint, resolvePath, Text.splitAtEach_joinWith (by simp) fun piece member => (encoded piece member).slash,
    resolveDots_of_segments [] encoded, List.nil_append]
  -- The path begins with a slash, so it is not empty.
  rw [List.map_cons, List.map_cons, Text.joinWith_cons_cons]
  rfl

end Cluster.Target

end ClaimOperator
