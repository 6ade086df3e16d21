import FeatureFlags.Flag

/-! # Inputs of samples are kept apart

What is hashed for a sample is its salt followed by the sampling key. The ids in a salt are decimal
and each is closed by a colon, so an input can be taken apart in one way only, up to a key that
begins like the rest of a salt. -/

namespace FeatureFlags

def Purpose.input (purpose : Purpose) (flagId segmentId : UInt64) (key : String) : ByteArray :=
  Sharder.input (purpose.salt flagId segmentId).toUTF8 key.toUTF8

def Purpose.tag : Purpose → String
  | .rollout => "rollout:"
  | .bucket => ""

/-- What stands in front of the first separator can be told from what stands behind it. -/
theorem eq_and_eq_of_append_cons {α : Type} {separator : α} {front head back tail : List α}
    (hfront : separator ∉ front) (hhead : separator ∉ head)
    (h : front ++ separator :: back = head ++ separator :: tail) : front = head ∧ back = tail := by
  induction front generalizing head with
  | nil =>
    cases head with
    | nil => exact ⟨rfl, (List.cons.inj h).2⟩
    | cons a head =>
      obtain ⟨rfl, -⟩ := List.cons.inj h
      exact absurd List.mem_cons_self hhead
  | cons a front ih =>
    cases head with
    | nil =>
      obtain ⟨rfl, -⟩ := List.cons.inj h
      exact absurd List.mem_cons_self hfront
    | cons b head =>
      obtain ⟨rfl, hrest⟩ := List.cons.inj h
      obtain ⟨rfl, hback⟩ := ih (fun hmem => hfront (List.mem_cons_of_mem _ hmem))
        (fun hmem => hhead (List.mem_cons_of_mem _ hmem)) hrest
      exact ⟨rfl, hback⟩

theorem toList_toString_id (id : UInt64) : (toString id).toList = Nat.toDigits 10 id.toNat :=
  Nat.toList_repr

theorem colon_notMem_id (id : UInt64) : ':' ∉ (toString id).toList := by
  intro hmem
  rw [toList_toString_id] at hmem
  have hdigit := Nat.isDigit_of_mem_toDigits (by decide) (by decide) hmem
  contradiction

theorem id_inj {id other : UInt64} (h : (toString id).toList = (toString other).toList) :
    id = other := by
  rw [toList_toString_id, toList_toString_id] at h
  have hvalue : id.toNat = other.toNat := by
    rw [← Nat.ofDigitChars_ten_toDigits (n := id.toNat), h, Nat.ofDigitChars_ten_toDigits]
  exact UInt64.toNat_inj.1 hvalue

namespace Purpose

theorem toList_salt (purpose : Purpose) (flagId segmentId : UInt64) :
    (purpose.salt flagId segmentId).toList =
      (toString flagId).toList ++ ':' :: ((toString segmentId).toList ++ ':' ::
        purpose.tag.toList) := by
  cases purpose with
  | rollout => simp [salt, tag]
  | bucket => simp [salt, tag]

theorem salt_append_inj {purpose another : Purpose} {flagId segmentId otherId rivalId : UInt64}
    {key twin : String} :
    purpose.salt flagId segmentId ++ key = another.salt otherId rivalId ++ twin ↔
      flagId = otherId ∧ segmentId = rivalId ∧ purpose.tag ++ key = another.tag ++ twin := by
  rw [← String.toList_inj, ← String.toList_inj]
  simp only [String.toList_append, toList_salt, List.append_assoc, List.cons_append]
  constructor
  · intro h
    obtain ⟨hflag, hrest⟩ :=
      eq_and_eq_of_append_cons (colon_notMem_id flagId) (colon_notMem_id otherId) h
    obtain ⟨hsegment, htagged⟩ :=
      eq_and_eq_of_append_cons (colon_notMem_id segmentId) (colon_notMem_id rivalId) hrest
    exact ⟨id_inj hflag, id_inj hsegment, htagged⟩
  · rintro ⟨rfl, rfl, htagged⟩
    rw [htagged]

theorem tag_append_inj {purpose another : Purpose} {key twin : String} :
    purpose.tag ++ key = another.tag ++ twin ↔
      purpose = another ∧ key = twin ∨
      purpose = .bucket ∧ another = .rollout ∧ key = "rollout:" ++ twin ∨
      purpose = .rollout ∧ another = .bucket ∧ twin = "rollout:" ++ key := by
  cases purpose with
  | rollout =>
    cases another with
    | rollout => simp [tag, String.append_right_inj]
    | bucket => simp [tag, eq_comm]
  | bucket =>
    cases another with
    | rollout => simp [tag]
    | bucket => simp [tag]

theorem input_eq_iff {purpose another : Purpose} {flagId segmentId otherId rivalId : UInt64}
    {key twin : String} :
    purpose.input flagId segmentId key = another.input otherId rivalId twin ↔
      purpose.salt flagId segmentId ++ key = another.salt otherId rivalId ++ twin := by
  unfold input Sharder.input
  simp only [String.toUTF8_eq_toByteArray, ← String.toByteArray_append, String.toByteArray_inj]

/-- Two samples are hashed from the same bytes exactly if they are drawn for the same flag and segment
and either for the same purpose and key, or one for a bucket under the key of the other with
`rollout:` in front. Samples of different flags or segments never are, and neither are the two
samples of one entity. -/
theorem inputs_apart (flagId segmentId otherId rivalId : UInt64) (purpose another : Purpose)
    (key twin : String) :
    (purpose.input flagId segmentId key = another.input otherId rivalId twin ↔
      flagId = otherId ∧ segmentId = rivalId ∧
        (purpose = another ∧ key = twin ∨
          purpose = .bucket ∧ another = .rollout ∧ key = "rollout:" ++ twin ∨
          purpose = .rollout ∧ another = .bucket ∧ twin = "rollout:" ++ key)) ∧
    (flagId ≠ otherId ∨ segmentId ≠ rivalId →
      purpose.input flagId segmentId key ≠ another.input otherId rivalId twin) ∧
    rollout.input flagId segmentId key ≠ bucket.input flagId segmentId key := by
  refine ⟨?_, ?_, ?_⟩
  · rw [input_eq_iff, salt_append_inj, tag_append_inj]
  · intro hne h
    obtain ⟨hflag, hsegment, -⟩ := salt_append_inj.1 (input_eq_iff.1 h)
    rcases hne with hne | hne
    · exact hne hflag
    · exact hne hsegment
  · intro h
    obtain ⟨-, -, htagged⟩ := salt_append_inj.1 (input_eq_iff.1 h)
    have hlength := congrArg String.length htagged
    simp [tag] at hlength

example : bucket.input 1 2 "rollout:x" = rollout.input 1 2 "x" := by decide +kernel

end Purpose

end FeatureFlags
