import Mathlib.Data.UInt

/-!
# Wire formats

A wire format for `α` prints a value and parses one off the front of a byte string.  The round
trip is a field (`take_put`), whatever bytes follow, so formats compose: `Wire.map` changes the
type, `Wire.pair` concatenates, `Wire.prefixed` is a byte string after its length, and a sum is a
number followed by what the number calls for.

* `Wire.varint` — LEB128: seven bits a byte, low ones first, the high bit meaning "more"; padding
  beyond the groups that the type needs is refused.
-/

/-- A self-delimiting format. -/
structure Wire (α : Type*) where
  put : α → List UInt8
  take : List UInt8 → Option (α × List UInt8)
  take_put : ∀ a rest, take (put a ++ rest) = some (a, rest)

namespace Wire

variable {α β : Type*}

/-! ## Variable-length numbers -/

/-- The groups of seven bits of `n`, low ones first; `fuel` bounds their number. -/
def putGroups : Nat → Nat → List UInt8
  | 0, _ => []
  | fuel + 1, n =>
    if n < 128 then [UInt8.ofNat n] else UInt8.ofNat (n % 128 + 128) :: putGroups fuel (n / 128)

/-- A number read off the front, one group a byte; beyond `most` groups the last is not empty, so
    the number is out of range. -/
def takeGroups : Nat → List UInt8 → Option (Nat × List UInt8)
  | _, [] => none
  | most, byte :: rest =>
    if byte.toNat < 128 then
      if most = 0 ∧ byte = 0 then none else some (byte.toNat, rest)
    else (takeGroups (most - 1) rest).map fun r => (byte.toNat - 128 + 128 * r.1, r.2)

theorem takeGroups_putGroups (fuel n most : Nat) (h : n < fuel) (hmost : n = 0 → most ≠ 0)
    (rest : List UInt8) : takeGroups most (putGroups fuel n ++ rest) = some (n, rest) := by
  induction fuel generalizing n most with
  | zero => cases h
  | succ fuel ih =>
    unfold putGroups
    by_cases hn : n < 128
    · have hb : (UInt8.ofNat n).toNat = n := UInt8.toNat_ofNat_of_lt' (show n < 2 ^ 8 by omega)
      have hlast : ¬ (most = 0 ∧ UInt8.ofNat n = 0) := by
        rintro ⟨hzero, hbyte⟩
        rw [hbyte] at hb
        exact hmost hb.symm hzero
      rw [if_pos hn, List.singleton_append, takeGroups, hb, if_pos hn, if_neg hlast]
    · have hb : (UInt8.ofNat (n % 128 + 128)).toNat = n % 128 + 128 :=
        UInt8.toNat_ofNat_of_lt' (show n % 128 + 128 < 2 ^ 8 by omega)
      rw [if_neg hn, List.cons_append, takeGroups, hb, if_neg (by omega),
        ih (n / 128) (most - 1) (by omega) (by omega), Option.map_some]
      congr 2
      omega

/-- LEB128 of a number that needs at most so many groups. -/
def varint (most : Nat) [NeZero most] : Wire Nat where
  put n := putGroups (n + 1) n
  take := takeGroups most
  take_put n rest :=
    takeGroups_putGroups (n + 1) n most (Nat.lt_succ_self n) (fun _ => NeZero.ne most) rest

/-! ## Combining formats -/

/-- A format for `β` through one for `α`; not every `α` need mean a `β`. -/
def map (w : Wire α) (f : α → Option β) (g : β → α) (h : ∀ b, f (g b) = some b) : Wire β where
  put b := w.put (g b)
  take bytes := (w.take bytes).bind fun r => (f r.1).map fun b => (b, r.2)
  take_put b rest := by rw [w.take_put, Option.bind_some, h, Option.map_some]

/-- One after the other. -/
def pair (w : Wire α) (w' : Wire β) : Wire (α × β) where
  put x := w.put x.1 ++ w'.put x.2
  take bytes := (w.take bytes).bind fun r => (w'.take r.2).map fun r' => ((r.1, r'.1), r'.2)
  take_put x rest := by
    rw [List.append_assoc, w.take_put, Option.bind_some, w'.take_put, Option.map_some]

/-- A byte string after its length, of at most `most` groups. -/
def prefixed (most : Nat) [NeZero most] : Wire (List UInt8) where
  put bytes := (varint most).put bytes.length ++ bytes
  take bytes := ((varint most).take bytes).bind fun r =>
    if r.1 ≤ r.2.length then some (r.2.take r.1, r.2.drop r.1) else none
  take_put bytes rest := by
    rw [List.append_assoc, (varint most).take_put, Option.bind_some,
      if_pos (by rw [List.length_append]; omega), List.take_left, List.drop_left]

end Wire
