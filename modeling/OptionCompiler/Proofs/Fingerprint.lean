import Mathlib
import OptionCompiler.Fingerprint
import OptionCompiler.Proofs.Json.Compact
/-!
# What fingerprints tell apart

The bytes of a text determine the text, and the bytes that stand for several fingerprints
determine the fingerprints as long as none of them has a zero character. Digests are made of
hexadecimal digits, so no digest has one.

That the digests of two messages differ when the messages do is true of no function with
digests of fixed length. `Sha256.CollisionFree` says it of the messages in a list, and under it
equal fingerprints come from equal values.
-/

namespace OptionCompiler

/-- No two different messages of a list have one digest. -/
def Sha256.CollisionFree (messages : List (List UInt8)) : Prop :=
  ∀ message ∈ messages, ∀ other ∈ messages,
    Sha256.hexadecimal message = Sha256.hexadecimal other → message = other

theorem Sha256.CollisionFree.mono {messages others : List (List UInt8)}
    (free : Sha256.CollisionFree others) (subset : messages ⊆ others) :
    Sha256.CollisionFree messages :=
  fun message member other member' equal =>
    free message (subset member) other (subset member') equal

theorem Sha256.collisionFree_of_nodup {messages : List (List UInt8)}
    (digests : (messages.dedup.map Sha256.hexadecimal).Nodup) :
    Sha256.CollisionFree messages := by
  intro message member other member' equal
  exact List.inj_on_of_nodup_map digests (List.mem_dedup.mpr member) (List.mem_dedup.mpr member')
    equal

namespace Fingerprint

section Bytes

theorem bytes_eq (text : String) : bytes text = utf8 text.toList := by
  have encoded : text.toByteArray = text.toList.utf8Encode := String.utf8Encode_toList.symm
  rw [bytes, String.toUTF8, encoded, List.utf8Encode, List.toList_data_toByteArray, utf8]

theorem bytes_injective : Function.Injective bytes := by
  intro text other equal
  exact String.toByteArray_inj.mp (ByteArray.ext (Array.toList_inj.mp equal))

theorem utf8_injective : Function.Injective utf8 := by
  intro text other equal
  have texts : bytes (String.ofList text) = bytes (String.ofList other) := by
    rw [bytes_eq, bytes_eq, String.toList_ofList, String.toList_ofList, equal]
  exact String.ofList_injective (bytes_injective texts)

theorem zero_ne_of_high {value : ℕ} (high : 128 ≤ value) (small : value < 256) :
    0 ≠ UInt8.ofNat value := by
  intro equal
  have zero := congrArg UInt8.toNat equal
  simp only [UInt8.toNat_zero, UInt8.toNat_ofNat'] at zero
  omega

/-- Only the zero character is written with a zero byte: every byte of a longer encoding has its
highest bit set. -/
theorem eq_zero_of_mem_utf8EncodeChar {c : Char} (member : 0 ∈ String.utf8EncodeChar c) :
    c = '\x00' := by
  have zero : c.val.toNat = 0 := by
    simp only [String.utf8EncodeChar] at member
    split at member
    · have byte := congrArg UInt8.toNat (List.mem_singleton.mp member)
      simp only [UInt8.toNat_zero, UInt8.toNat_ofNat'] at byte
      omega
    · exfalso
      split at member
      · simp only [List.mem_cons, List.not_mem_nil, or_false] at member
        rcases member with first | second
        · exact zero_ne_of_high (by omega) (by omega) first
        · exact zero_ne_of_high (by omega) (by omega) second
      · split at member
        · simp only [List.mem_cons, List.not_mem_nil, or_false] at member
          rcases member with first | second | third
          · exact zero_ne_of_high (by omega) (by omega) first
          · exact zero_ne_of_high (by omega) (by omega) second
          · exact zero_ne_of_high (by omega) (by omega) third
        · simp only [List.mem_cons, List.not_mem_nil, or_false] at member
          rcases member with first | second | third | fourth
          · exact zero_ne_of_high (by omega) (by omega) first
          · exact zero_ne_of_high (by omega) (by omega) second
          · exact zero_ne_of_high (by omega) (by omega) third
          · exact zero_ne_of_high (by omega) (by omega) fourth
  exact Char.ext (UInt32.toNat_inj.mp zero)

theorem zero_notMem_bytes {text : String} (absent : '\x00' ∉ text.toList) : 0 ∉ bytes text := by
  intro member
  rw [bytes_eq] at member
  rcases List.mem_flatMap.mp member with ⟨c, present, encoded⟩
  exact absent (eq_zero_of_mem_utf8EncodeChar encoded ▸ present)

end Bytes

/-- The text has no zero character. -/
def ZeroFree (fingerprint : Fingerprint) : Prop :=
  '\x00' ∉ fingerprint.text.toList

theorem combinedBytes_eq (parts : List Fingerprint) :
    combinedBytes parts =
      (parts.map fun part => bytes part.text).flatMap fun run => run ++ [0] := by
  rw [List.flatMap_map]
  rfl

/-- The bytes of several fingerprints are told apart at the zero bytes. -/
theorem splitOn_combinedBytes {parts : List Fingerprint} (free : ∀ part ∈ parts, part.ZeroFree) :
    (combinedBytes parts).splitOn 0 = (parts.map fun part => bytes part.text) ++ [[]] := by
  have apart : ∀ run ∈ parts.map fun part => bytes part.text, 0 ∉ run :=
    List.forall_mem_map.mpr fun part member => zero_notMem_bytes (free part member)
  rw [combinedBytes_eq, Text.splitOn_flatMap_concat apart]

/-- The bytes of several fingerprints keep their texts apart. -/
theorem eq_of_combinedBytes {parts others : List Fingerprint} (free : ∀ part ∈ parts, part.ZeroFree)
    (free' : ∀ part ∈ others, part.ZeroFree) (equal : combinedBytes parts = combinedBytes others) :
    parts = others := by
  have injective : Function.Injective fun part : Fingerprint => bytes part.text := by
    intro part other same
    cases part
    cases other
    exact congrArg Fingerprint.mk (bytes_injective same)
  have read := splitOn_combinedBytes free
  rw [equal, splitOn_combinedBytes free'] at read
  exact (injective.list_map (List.append_cancel_right read)).symm

section Digests

theorem digitChar_ne_zero : ∀ value < 16, Nat.digitChar value ≠ '\x00' := by
  decide

theorem zero_notMem_hexadecimal (message : List UInt8) :
    '\x00' ∉ (Sha256.hexadecimal message).toList := by
  intro member
  simp only [Sha256.hexadecimal, String.toList_ofList, List.mem_flatMap, Sha256.wordDigits,
    List.mem_map] at member
  rcases member with ⟨word, _, place, _, digit⟩
  exact digitChar_ne_zero _ (Nat.mod_lt _ (by decide)) digit

theorem zeroFree_of (value : Json) : (of value).ZeroFree :=
  zero_notMem_hexadecimal _

/-- What is hashed for the fingerprint of a value. -/
def message (value : Json) : List UInt8 :=
  utf8 value.compactText

variable {messages : List (List UInt8)}

theorem settled_eq_of_of_eq (free : Sha256.CollisionFree messages) {value other : Json}
    (member : message value ∈ messages) (member' : message other ∈ messages)
    (equal : of value = of other) : value.settled = other.settled := by
  have digests : Sha256.hexadecimal (message value) = Sha256.hexadecimal (message other) :=
    congrArg Fingerprint.text equal
  have messagesEqual := free _ member _ member' digests
  exact (Json.compact_eq_iff value other).mp (congrArg String.ofList (utf8_injective messagesEqual))

theorem parts_eq_of_combine_eq (free : Sha256.CollisionFree messages)
    {parts others : List Fingerprint} (zeroFree : ∀ part ∈ parts, part.ZeroFree)
    (zeroFree' : ∀ part ∈ others, part.ZeroFree) (member : combinedBytes parts ∈ messages)
    (member' : combinedBytes others ∈ messages) (equal : combine parts = combine others) :
    parts = others := by
  have digests : Sha256.hexadecimal (combinedBytes parts) =
      Sha256.hexadecimal (combinedBytes others) := congrArg Fingerprint.text equal
  exact eq_of_combinedBytes zeroFree zeroFree' (free _ member _ member' digests)

end Digests

section Combination

/-- Several fingerprints without a zero character are read back from the bytes that stand for them
together, one after the other at the zero bytes, so no other such list has these bytes. Digests are
such fingerprints, those of values and those of other fingerprints. -/
theorem combinedBytes_apart {parts others : List Fingerprint}
    (free : ∀ part ∈ parts, part.ZeroFree) (free' : ∀ part ∈ others, part.ZeroFree) :
    (combinedBytes parts = combinedBytes others ↔ parts = others) ∧
    (combinedBytes parts).splitOn 0 = (parts.map fun part => bytes part.text) ++ [[]] ∧
    (∀ value, (of value).ZeroFree) ∧ ∀ digested, (combine digested).ZeroFree :=
  ⟨⟨eq_of_combinedBytes free free', congrArg combinedBytes⟩, splitOn_combinedBytes free,
    zeroFree_of, fun _ => zero_notMem_hexadecimal _⟩

/-- Moving a byte between parts, or an empty part, gives other bytes. -/
theorem combinedBytes_apart_shifted :
    combinedBytes [⟨"ab"⟩, ⟨""⟩, ⟨"c"⟩] ≠ combinedBytes [⟨"a"⟩, ⟨"bc"⟩, ⟨""⟩] := by
  have free : ∀ part ∈ [⟨"ab"⟩, ⟨""⟩, (⟨"c"⟩ : Fingerprint)], part.ZeroFree := by
    simp [ZeroFree]
  have free' : ∀ part ∈ [⟨"a"⟩, ⟨"bc"⟩, (⟨""⟩ : Fingerprint)], part.ZeroFree := by
    simp [ZeroFree]
  rw [Ne, (combinedBytes_apart free free').1]
  decide

-- A zero character in a part would look like the end of one.
example : combinedBytes [⟨"a\x00b"⟩] = combinedBytes [⟨"a"⟩, ⟨"b"⟩] := by
  cbv

end Combination

end Fingerprint

end OptionCompiler
