import BackendBoilerplate.Lib.Utf16
import BackendBoilerplate.Shared.Crypto

/-!
`CryptoService.constantTimeCompare`. Its guard compares lengths in code units, and what it
guards compares bytes of UTF-8: strings that are equally long for the one need not be for
the other, and strings that differ need not differ in their bytes.
-/
namespace BackendBoilerplate
open JavaScript

theorem utf8Bytes_ofList (text : List Char) :
    utf8Bytes (.ofList text) = text.flatMap String.utf8EncodeChar := by
  rw [utf8Bytes, String.toUTF8, String.toByteArray_ofList, List.utf8Encode, List.data_toByteArray]

theorem length_utf8Bytes (text : List Char) :
    (utf8Bytes (.ofList text)).length = utf8Length text := by
  rw [utf8Bytes_ofList, List.length_flatMap, utf8Length]
  simp

theorem utf8Bytes_inj {s t : String} : utf8Bytes s = utf8Bytes t ↔ s = t := by
  constructor
  · intro h
    exact String.toByteArray_inj.mp (ByteArray.ext (Array.toList_inj.mp h))
  · rintro rfl
    rfl

/-- `Buffer.from(text)`. -/
def bufferFrom (text : List UInt16) : List UInt8 := utf8Bytes (.ofList (toWellFormed text))

/-- `crypto.timingSafeEqual`. -/
def timingSafeEqual (a b : List UInt8) : Except JsError Bool :=
  if a.length = b.length then .ok (a = b)
  else .error (.error "Input buffers must have the same byte length")

namespace CryptoService

def constantTimeCompare (a b : List UInt16) : Except JsError Bool :=
  if a.length ≠ b.length then .ok false
  else timingSafeEqual (bufferFrom a) (bufferFrom b)

end CryptoService

theorem length_bufferFrom (text : List UInt16) :
    (bufferFrom text).length = utf8Length (toWellFormed text) :=
  length_utf8Bytes _

/-- Buffers are equal where the strings are, up to surrogates that are alone. -/
theorem bufferFrom_inj {a b : List UInt16} :
    bufferFrom a = bufferFrom b ↔ toWellFormed a = toWellFormed b := by
  rw [bufferFrom, bufferFrom, utf8Bytes_inj, String.ofList_inj]

theorem timingSafeEqual_bufferFrom (a b : List UInt16) :
    timingSafeEqual (bufferFrom a) (bufferFrom b) =
      if utf8Length (toWellFormed a) = utf8Length (toWellFormed b)
      then .ok (decide (toWellFormed a = toWellFormed b))
      else .error (.error "Input buffers must have the same byte length") := by
  rw [timingSafeEqual, length_bufferFrom, length_bufferFrom]
  simp only [bufferFrom_inj]

/-- `constantTimeCompare` is equality exactly on strings that are not equally long, or have
as many bytes and differ in more than their lone surrogates, if at all. -/
theorem constant_time_compare_iff (a b : List UInt16) :
    CryptoService.constantTimeCompare a b = .ok (decide (a = b)) ↔
      a.length ≠ b.length ∨
        utf8Length (toWellFormed a) = utf8Length (toWellFormed b) ∧
          (toWellFormed a = toWellFormed b → a = b) := by
  rw [CryptoService.constantTimeCompare]
  by_cases hlength : a.length = b.length
  · rw [if_neg (not_not.mpr hlength), timingSafeEqual_bufferFrom]
    by_cases hbytes : utf8Length (toWellFormed a) = utf8Length (toWellFormed b)
    · rw [if_pos hbytes, Except.ok.injEq, decide_eq_decide]
      refine ⟨fun hiff => .inr ⟨hbytes, hiff.mp⟩, fun h => ⟨?_, congrArg toWellFormed⟩⟩
      exact (h.resolve_left (not_not.mpr hlength)).2
    · rw [if_neg hbytes]
      refine iff_of_false nofun ?_
      rintro (hne | h)
      · exact hne hlength
      · exact hbytes h.1
  · have hne : a ≠ b := fun heq => hlength (congrArg List.length heq)
    rw [if_pos hlength, decide_eq_false hne]
    exact iff_of_true rfl (.inl hlength)

/-- On texts of as many code units, only their bytes matter. -/
theorem constantTimeCompare_codeUnits {s t : List Char} (hlength : utf16Length s = utf16Length t) :
    CryptoService.constantTimeCompare (codeUnits s) (codeUnits t) =
      if utf8Length s = utf8Length t then .ok (decide (s = t))
      else .error (.error "Input buffers must have the same byte length") := by
  rw [CryptoService.constantTimeCompare, length_codeUnits, length_codeUnits,
    if_neg (not_not.mpr hlength), timingSafeEqual_bufferFrom, toWellFormed_codeUnits,
    toWellFormed_codeUnits]

example : CryptoService.constantTimeCompare (codeUnits "key-1".toList) (codeUnits "key-2".toList) =
    .ok false := by decide

/-- It throws for an "e" and an "é", and takes two lone surrogates for each other. -/
theorem constant_time_compare_not_equality :
    CryptoService.constantTimeCompare (codeUnits "e".toList) (codeUnits "é".toList) =
        .error (.error "Input buffers must have the same byte length") ∧
      CryptoService.constantTimeCompare [0xD800] [0xD801] = .ok true := by
  decide

end BackendBoilerplate
