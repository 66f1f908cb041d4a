import FleetLifecycle.Proofs.KeyOrder
import FleetLifecycle.Proofs.WallClockTexts

/-!
# Readable instants — an instant that was read can be read again

A text puts a leap second at the end of a minute on clocks that are whole minutes from UTC, so it
ends a minute at longitude zero as well.  Concretely, we:

1. bound the fraction of a second that a text gives (`TimeText.fraction_lt`), and see that offsets
   are whole minutes (`TimeText.offset_mod`);
2. conclude that what is read of a text is readable (`Instant.readable_of_read`);
3. follow instants into the records of resources (`Resource.readable_of_reader`) and of requests
   (`ActionRequest.readable_of_reader`).
-/

namespace FleetLifecycle

/-! ## Pieces of texts -/

namespace TimeText

open Text

variable {cs rest : List Char}

/-- A run of digits after a number of the form `n` stays below the next such number. -/
theorem ofDigitChars_lt (ds : List Char) (hds : ∀ c ∈ ds, c.isDigit = true) (n : Nat) :
    Nat.ofDigitChars 10 ds n < (n + 1) * 10 ^ ds.length := by
  induction ds generalizing n with
  | nil =>
    simp
  | cons d ds ih =>
    rcases List.forall_mem_cons.1 hds with ⟨hd, hds⟩
    have hdigit : d.toNat - '0'.toNat ≤ 9 :=
      Nat.sub_le_of_le_add (bounds_of_isDigit hd).2
    rw [Nat.ofDigitChars_cons, List.length_cons, Nat.pow_succ', ← Nat.mul_assoc]
    exact Nat.lt_of_lt_of_le (ih hds _) (Nat.mul_le_mul_right _ (by omega))

theorem fraction_lt {n : Nat} (h : fraction cs = .ok (n, rest)) : n < secondNanos := by
  unfold fraction at h
  split at h
  · next cs =>
    rcases bind_eq_ok_iff.1 h with ⟨⟨m, after⟩, hnumber, h⟩
    cases h
    rcases exists_numberText (by decide) hnumber with ⟨ds, rfl, ⟨-, hds, hfits, rfl⟩, -⟩
    have hlength : ds.length ≤ 9 := hfits 9 rfl
    have hused : (ds ++ after).length - after.length = ds.length := by
      rw [List.length_append, Nat.add_sub_cancel]
    have hlt : ofDigits ds < 10 ^ ds.length := by
      have hbound := ofDigitChars_lt ds hds 0
      rwa [← ofDigits_eq, Nat.zero_add, Nat.one_mul] at hbound
    rw [hused]
    calc
      ofDigits ds * tenTo (9 - ds.length)
          < 10 ^ ds.length * 10 ^ (9 - ds.length) :=
        Nat.mul_lt_mul_of_pos_right hlt (Nat.pow_pos (by decide))
      _ = 10 ^ 9 := by rw [← Nat.pow_add, Nat.add_sub_cancel' hlength]
      _ = secondNanos := by decide
  · cases h
    decide

theorem offset_mod {o : Int} (h : offset cs = .ok (o, rest)) : o % 60 = 0 := by
  unfold offset at h
  split at h
  · split at h
    · cases h
      rfl
    · split at h
      · cases h
        rfl
      · rcases bind_eq_ok_iff.1 h with ⟨⟨negative, after⟩, -, h⟩
        rcases bind_eq_ok_iff.1 h with ⟨⟨a, b, after⟩, -, h⟩
        dsimp only at h
        split at h
        · rcases bind_eq_ok_iff.1 h with ⟨⟨a', b', after⟩, -, h⟩
          dsimp only at h
          split at h
          · split at h
            · cases h
            · cases h
              split <;> omega
          · cases h
        · cases h
  · cases h

end TimeText

namespace Instant

open TimeText

/-- A second 60 ends a minute at longitude zero too, on clocks that are whole minutes from it. -/
theorem readable_of_clock {shown : LocalTime} {o : Int} {t : Instant}
    (hnanos : shown.nanos < secondNanos) (hminutes : o % 60 = 0)
    (found : of? (shown.seconds.1 - o) shown.seconds.2 = some t) : t.Readable := by
  rcases of?_eq_some_iff.1 found with ⟨hseconds, htnanos⟩
  intro hleap
  rw [htnanos] at hleap
  rw [hseconds]
  simp only [LocalTime.seconds, daySeconds] at hleap ⊢
  by_cases hsixty : shown.second = 60
  · simp only [hsixty, if_true]
    omega
  · simp only [hsixty, if_false] at hleap
    exact absurd hnanos (Nat.not_lt.2 hleap)

/-- An instant that was read can be read again. -/
theorem readable_of_read {s : String} {t : Instant} (h : Instant.read s = .ok t) : t.Readable := by
  unfold Instant.read instant at h
  -- date and time of day
  rcases bind_eq_ok_iff.1 h with ⟨⟨year, cs⟩, -, h⟩
  rcases bind_eq_ok_iff.1 h with ⟨⟨_, cs⟩, -, h⟩
  rcases bind_eq_ok_iff.1 h with ⟨⟨month, cs⟩, -, h⟩
  rcases bind_eq_ok_iff.1 h with ⟨⟨_, cs⟩, -, h⟩
  rcases bind_eq_ok_iff.1 h with ⟨⟨day, cs⟩, -, h⟩
  rcases bind_eq_ok_iff.1 h with ⟨⟨_, cs⟩, -, h⟩
  rcases bind_eq_ok_iff.1 h with ⟨⟨hour, cs⟩, -, h⟩
  rcases bind_eq_ok_iff.1 h with ⟨⟨_, cs⟩, -, h⟩
  rcases bind_eq_ok_iff.1 h with ⟨⟨minute, cs⟩, -, h⟩
  rcases bind_eq_ok_iff.1 h with ⟨⟨_, cs⟩, -, h⟩
  rcases bind_eq_ok_iff.1 h with ⟨⟨second, cs⟩, -, h⟩
  -- what decides
  rcases bind_eq_ok_iff.1 h with ⟨⟨nanos, cs⟩, hfraction, h⟩
  rcases bind_eq_ok_iff.1 h with ⟨⟨o, cs⟩, hoffset, h⟩
  dsimp only at h
  split at h
  case isFalse => cases h
  rcases bind_eq_ok_iff.1 h with ⟨date, -, h⟩
  split at h
  case isFalse => cases h
  split at h
  case h_2 => cases h
  next found =>
  cases h
  exact readable_of_clock (fraction_lt hfraction) (offset_mod hoffset) found

theorem readable_of_reader {origin : Origin} {v : Json} {t : Instant}
    (h : reader origin v = .ok t) : t.Readable := by
  rcases reader_eq_ok_iff.1 h with ⟨s, -, hread⟩
  exact readable_of_read hread

end Instant

/-! ## Records -/

section Records

variable {origin : Origin} {v : Json}

/-- Whatever a record is read from, it is built of values under names. -/
theorem Shape.exists_build_of_read {α : Type} {shape : Shape α} {what : String} {a : α}
    (h : shape.read what origin v = .ok a) : ∃ get, shape.build origin get = .ok a := by
  cases v with
  | object entries =>
    rcases bind_eq_ok_iff.1 h with ⟨-, -, hbuild⟩
    exact ⟨_, hbuild⟩
  | array items =>
    rcases bind_eq_ok_iff.1 h with ⟨-, -, h⟩
    rcases bind_eq_ok_iff.1 h with ⟨-, -, hbuild⟩
    exact ⟨_, hbuild⟩
  | null | bool | integer | real | string =>
    cases h

/-- Whatever a tagged value is read from, one of the variants reads the rest of it. -/
theorem exists_variant_of_readTagged {α : Type} {variants : List (Variant α)} {what key : String}
    {a : α} (h : readTagged what key variants origin v = .ok a) :
    ∃ x ∈ variants, ∃ origin' rest, x.read origin' rest = .ok a := by
  cases v with
  | object entries =>
    rcases bind_eq_ok_iff.1 h with ⟨x, htag, hread⟩
    rcases readTag_none_eq_ok_iff.1 htag with ⟨-, _, -, hname⟩
    exact ⟨x, mem_of_readName hname, _, _, hread⟩
  | array items =>
    cases items with
    | nil =>
      cases h
    | cons tag items =>
      rcases bind_eq_ok_iff.1 h with ⟨x, hname, hread⟩
      exact ⟨x, mem_of_readName hname, _, _, hread⟩
  | null | bool | integer | real | string =>
    cases h

theorem Json.OptionallySays.readable {field : Option Json} {launched : Option Instant}
    (h : Json.OptionallySays Json.SaysInstant field launched) : ∀ t ∈ launched, t.Readable := by
  cases h with
  | absent | null =>
    rintro t ⟨⟩
  | given hsays =>
    rintro t ⟨⟩
    rcases hsays with ⟨s, -, hread⟩
    exact Instant.readable_of_read hread

theorem ComputeInstance.readable_of_reader {m : ComputeInstance} (h : reader origin v = .ok m) :
    ∀ t ∈ m.launchTime, t.Readable := by
  rcases Shape.exists_build_of_read h with ⟨get, hbuild⟩
  exact (build_eq_ok_iff.1 hbuild).launchTime.readable

theorem DatabaseInstance.readable_of_reader {d : DatabaseInstance} (h : reader origin v = .ok d) :
    ∀ t ∈ d.startedAt, t.Readable := by
  rcases Shape.exists_build_of_read h with ⟨get, hbuild⟩
  exact (build_eq_ok_iff.1 hbuild).startedAt.readable

theorem Resource.readable_of_reader {r : Resource} (h : reader origin v = .ok r) : r.Readable := by
  rcases exists_variant_of_readTagged h with ⟨x, hx, origin', rest, hread⟩
  simp only [variants, List.mem_cons, List.not_mem_nil, or_false] at hx
  rcases hx with rfl | rfl
  · rcases map_eq_ok_iff.1 hread with ⟨m, hm, rfl⟩
    exact ComputeInstance.readable_of_reader hm
  · rcases map_eq_ok_iff.1 hread with ⟨d, hd, rfl⟩
    exact DatabaseInstance.readable_of_reader hd

theorem ActionRequest.readable_of_reader {r : ActionRequest} (h : reader origin v = .ok r) :
    r.evaluatedAt.Readable := by
  rcases Shape.exists_build_of_read h with ⟨get, hbuild⟩
  rcases Shape.build_andThen_eq_ok_iff.1 hbuild with ⟨f, hfields, t, ht, rfl⟩
  rcases Shape.build_required_eq_ok_iff.1 ht with ⟨_, -, hread⟩
  -- the instant is the last of the fields, whatever the others are
  have hlast : (f t).evaluatedAt = t := by
    simp only [Shape.build_andThen_eq_ok_iff, Shape.done, Except.ok.injEq] at hfields
    obtain ⟨_, ⟨_, ⟨_, ⟨_, ⟨_, ⟨_, ⟨_, ⟨_, ⟨_, rfl, _, -, rfl⟩, _, -, rfl⟩, _, -, rfl⟩, _, -, rfl⟩, _,
      -, rfl⟩, _, -, rfl⟩, _, -, rfl⟩, _, -, rfl⟩, _, -, rfl⟩ := hfields
    rfl
  rw [hlast]
  exact Instant.readable_of_reader hread

end Records
end FleetLifecycle
