import StraightLine.Order.BlockSort

/-! The block sort loses nothing, whatever its comparison is, and arranges the list when the
comparison compares keys. The arrangement is stable: elements with one key stay in their order. -/

namespace StraightLine.Order

variable {α : Type} {before : α → α → Bool}

/-! ## Nothing is lost -/

theorem insertBack_perm (x : α) (ys : List α) : (insertBack before x ys).Perm (x :: ys) := by
  induction ys with
  | nil => exact .refl _
  | cons y ys ih =>
    simp only [insertBack]
    split
    · exact (ih.cons y).trans (.swap x y ys)
    · exact .refl _

theorem foldl_insertBack_perm (before : α → α → Bool) (xs acc : List α) :
    (xs.foldl (fun acc x => insertBack before x acc) acc).Perm (xs ++ acc) := by
  induction xs generalizing acc with
  | nil => exact .refl _
  | cons x xs ih =>
    refine (ih _).trans ?_
    exact ((insertBack_perm x acc).append_left xs).trans List.perm_middle

theorem insertionSort_perm (before : α → α → Bool) (xs : List α) :
    (insertionSort before xs).Perm xs := by
  have h := foldl_insertBack_perm before xs []
  rw [List.append_nil] at h
  exact (List.reverse_perm _).trans h

/-- Putting an element between two pieces of a list. -/
theorem take_cons_drop_perm (i : Nat) (y : α) (xs : List α) :
    (xs.take i ++ y :: xs.drop i).Perm (y :: xs) := by
  have h : (xs.take i ++ y :: xs.drop i).Perm (y :: (xs.take i ++ xs.drop i)) := List.perm_middle
  rwa [List.take_append_drop] at h

/-- Two lists that are cut anywhere, the two middle pieces exchanged. -/
theorem exchange_perm (s t : Nat) (xs ys : List α) :
    ((xs.take s ++ ys.take t) ++ (xs.drop s ++ ys.drop t)).Perm (xs ++ ys) := by
  have h : ((xs.take s ++ ys.take t) ++ (xs.drop s ++ ys.drop t)).Perm
      ((xs.take s ++ xs.drop s) ++ (ys.take t ++ ys.drop t)) := by
    simp only [List.append_assoc]
    refine List.Perm.append_left _ ?_
    simp only [← List.append_assoc]
    exact List.Perm.append_right _ List.perm_append_comm
  rwa [List.take_append_drop, List.take_append_drop] at h

theorem mergeWithin_perm (depth : Nat) (xs ys : List α) :
    (mergeWithin before depth xs ys).Perm (xs ++ ys) := by
  fun_induction mergeWithin before depth xs ys with
  | case1 xs ys => exact .refl _
  | case2 depth ys => exact .refl _
  | case3 depth xs h => simp
  | case4 depth x ys h i => exact take_cons_drop_perm i x ys
  | case5 depth xs y h₁ h₂ i =>
    exact (take_cons_drop_perm i y xs).trans (List.perm_append_singleton y xs).symm
  | case6 depth xs ys h₁ h₂ h₃ h₄ mid s ih₁ ih₂ =>
    exact (ih₁.append ih₂).trans (exchange_perm s (mid - s) xs ys)

theorem flatten_blocksWithin (n fuel : Nat) (xs : List α) (h : xs.length ≤ fuel) :
    (blocksWithin n fuel xs).flatten = xs := by
  fun_induction blocksWithin n fuel xs with
  | case1 xs => simpa using h
  | case2 fuel => rfl
  | case3 fuel x rest ih =>
    have hl : (rest.drop (n - 1)).length ≤ fuel := by
      rw [List.length_drop]
      simp only [List.length_cons] at h
      omega
    rw [List.flatten_cons, ih hl]
    simp

theorem flatten_blocks (n : Nat) (xs : List α) : (blocks n xs).flatten = xs :=
  flatten_blocksWithin n xs.length xs (Nat.le_refl _)

theorem mergePairs_perm : (bs : List (List α)) → (mergePairs before bs).flatten.Perm bs.flatten
  | [] => .refl _
  | [_] => .refl _
  | xs :: ys :: rest => by
    simp only [mergePairs, List.flatten_cons, ← List.append_assoc]
    exact (mergeWithin_perm _ xs ys).append (mergePairs_perm rest)

theorem mergeBlocksWithin_perm (fuel : Nat) (bs : List (List α)) :
    (mergeBlocksWithin before fuel bs).Perm bs.flatten := by
  fun_induction mergeBlocksWithin before fuel bs with
  | case1 bs => exact .refl _
  | case2 fuel => exact .refl _
  | case3 fuel xs => simp
  | case4 fuel bs h₁ h₂ ih => exact ih.trans (mergePairs_perm bs)

theorem flatten_map_perm {f : List α → List α} (hf : ∀ xs, (f xs).Perm xs)
    (bs : List (List α)) : (bs.map f).flatten.Perm bs.flatten := by
  induction bs with
  | nil => exact .refl _
  | cons b bs ih => exact (hf b).append ih

/-- The sort rearranges the list. -/
theorem blockSort_perm (before : α → α → Bool) (xs : List α) : (blockSort before xs).Perm xs := by
  have h := flatten_map_perm (insertionSort_perm before) (blocks blockSize xs)
  rw [flatten_blocks] at h
  exact (mergeBlocksWithin_perm _ _).trans h

/-! ## The binary search -/

/-- The search splits a range on which the test, once true, stays true. -/
theorem searchWithin_spec (p : Nat → Bool) (fuel lo n : Nat) (hf : n ≤ fuel)
    (hmono : ∀ i j, lo ≤ i → i ≤ j → j < lo + n → p i = true → p j = true) :
    lo ≤ searchWithin p fuel lo n ∧ searchWithin p fuel lo n ≤ lo + n ∧
      (∀ i, lo ≤ i → i < searchWithin p fuel lo n → p i = false) ∧
      (∀ i, searchWithin p fuel lo n ≤ i → i < lo + n → p i = true) := by
  fun_induction searchWithin p fuel lo n with
  | case1 lo n =>
    have hn : n = 0 := by omega
    subst hn
    exact ⟨Nat.le_refl _, Nat.le_refl _, fun i _ _ => by omega, fun i _ _ => by omega⟩
  | case2 fuel lo =>
    exact ⟨Nat.le_refl _, Nat.le_refl _, fun i _ _ => by omega, fun i _ _ => by omega⟩
  | case3 fuel lo n hn hp ih =>
    obtain ⟨h1, h2, h3, h4⟩ := ih (by omega)
      (fun i j hi hij hj => hmono i j hi hij (by omega))
    refine ⟨h1, by omega, h3, ?_⟩
    intro i hi hlt
    by_cases hm : i < lo + n / 2
    · exact h4 i hi hm
    · exact hmono (lo + n / 2) i (by omega) (by omega) hlt hp
  | case4 fuel lo n hn hp ih =>
    obtain ⟨h1, h2, h3, h4⟩ := ih (by omega)
      (fun i j hi hij hj => hmono i j (by omega) hij (by omega))
    refine ⟨by omega, by omega, ?_, fun i hi hlt => h4 i hi (by omega)⟩
    intro i hi hlt
    by_cases hm : i ≤ lo + n / 2
    · -- what is true in front of the middle would be true there
      cases hpi : p i with
      | false => rfl
      | true => exact absurd (hmono i (lo + n / 2) hi hm (by omega) hpi) hp
    · exact h3 i (by omega) hlt

/-! ## Stable order -/

/-- The comparison compares the keys of the elements of a list. -/
def ComparesKeys (before : α → α → Bool) (key : α → Int) (xs : List α) : Prop :=
  ∀ a ∈ xs, ∀ b ∈ xs, before a b = true ↔ key a < key b

theorem ComparesKeys.mono {key : α → Int} {xs ys : List α} (h : ComparesKeys before key xs)
    (hs : ∀ a ∈ ys, a ∈ xs) : ComparesKeys before key ys :=
  fun a ha b hb => h a (hs a ha) b (hs b hb)

/-- `a` may stand in front of `b`: it has the smaller key, or the keys are equal and `prior` says
that it was in front. -/
def Arranged (key : α → Int) (prior : α → α → Prop) (a b : α) : Prop :=
  key a < key b ∨ (key a = key b ∧ prior a b)

theorem Arranged.key_le {key : α → Int} {prior : α → α → Prop} {a b : α}
    (h : Arranged key prior a b) : key a ≤ key b := by
  rcases h with h | ⟨h, _⟩ <;> omega

theorem Arranged.of_le {key : α → Int} {prior : α → α → Prop} {a b : α}
    (hk : key a ≤ key b) (hf : prior a b) : Arranged key prior a b := by
  by_cases h : key a < key b
  · exact .inl h
  · exact .inr ⟨by omega, hf⟩

section Sorted

variable {key : α → Int} {prior : α → α → Prop}

/-- A list that is read backwards stays arranged when a later element goes in. -/
theorem insertBack_arranged {x : α} {ys : List α} (hk : ComparesKeys before key (x :: ys))
    (hs : ys.Pairwise fun a b => Arranged key prior b a) (hf : ∀ y ∈ ys, prior y x) :
    (insertBack before x ys).Pairwise fun a b => Arranged key prior b a := by
  induction ys with
  | nil => simp [insertBack]
  | cons y ys ih =>
    obtain ⟨hy, hs⟩ := List.pairwise_cons.mp hs
    have hxy := hk x (by simp) y (by simp)
    simp only [insertBack]
    split
    · rename_i hb
      refine List.pairwise_cons.mpr ⟨?_, ih (hk.mono (by grind)) hs ?_⟩
      · intro z hz
        rcases List.mem_cons.mp ((insertBack_perm x ys).mem_iff.mp hz) with rfl | hz
        · exact .inl (hxy.mp hb)
        · exact hy z hz
      · exact fun z hz => hf z (List.mem_cons_of_mem _ hz)
    · rename_i hb
      have hle : key y ≤ key x := by
        have hn : ¬ key x < key y := fun h => hb (hxy.mpr h)
        omega
      refine List.pairwise_cons.mpr ⟨?_, List.pairwise_cons.mpr ⟨hy, hs⟩⟩
      intro z hz
      refine .of_le ?_ (hf z hz)
      rcases List.mem_cons.mp hz with rfl | hz
      · exact hle
      · exact Int.le_trans (hy z hz).key_le hle

theorem foldl_insertBack_arranged {xs acc : List α} (hk : ComparesKeys before key (xs ++ acc))
    (hx : xs.Pairwise prior) (hs : acc.Pairwise fun a b => Arranged key prior b a)
    (hf : ∀ y ∈ acc, ∀ x ∈ xs, prior y x) :
    (xs.foldl (fun acc x => insertBack before x acc) acc).Pairwise
      fun a b => Arranged key prior b a := by
  induction xs generalizing acc with
  | nil => exact hs
  | cons x xs ih =>
    obtain ⟨hxs, hx⟩ := List.pairwise_cons.mp hx
    have hp : (insertBack before x acc).Perm (x :: acc) := insertBack_perm x acc
    refine ih (hk.mono ?_) hx
      (insertBack_arranged (hk.mono (by grind)) hs fun y hy => hf y hy x (by simp)) ?_
    · intro a ha
      have := hp.mem_iff (a := a)
      grind
    · intro y hy z hz
      rcases List.mem_cons.mp (hp.mem_iff.mp hy) with rfl | hy
      · exact hxs z hz
      · exact hf y hy z (List.mem_cons_of_mem _ hz)

theorem insertionSort_arranged {xs : List α} (hk : ComparesKeys before key xs)
    (hx : xs.Pairwise prior) : (insertionSort before xs).Pairwise (Arranged key prior) := by
  refine List.pairwise_reverse.mpr (foldl_insertBack_arranged (hk.mono (by simp)) hx .nil ?_)
  simp

/-- The comparison at two positions compares the keys there. -/
theorem beforeAt_iff {xs ys : List α} (hk : ComparesKeys before key (xs ++ ys)) {i j : Nat}
    (hi : i < ys.length) (hj : j < xs.length) :
    beforeAt before ys i xs j = true ↔ key ys[i] < key xs[j] := by
  simp only [beforeAt, List.getElem?_eq_getElem hi, List.getElem?_eq_getElem hj]
  exact hk _ (by simp) _ (by simp)

/-- Keys do not fall along an arranged list. -/
theorem key_getElem_le {xs : List α} (hs : xs.Pairwise (Arranged key prior)) {i j : Nat}
    (hij : i ≤ j) (hj : j < xs.length) : key xs[i] ≤ key xs[j] := by
  rcases Nat.eq_or_lt_of_le hij with rfl | h
  · exact Int.le_refl _
  · exact (List.pairwise_iff_getElem.mp hs i j (by omega) hj h).key_le

/-- The cut of two arranged lists: what goes to the left is not behind what goes to the right, and
an element of the second list that goes to the left is strictly in front of those of the first list
that go to the right. -/
theorem cutPoint_spec {xs ys : List α} (hk : ComparesKeys before key (xs ++ ys))
    (hx : xs.Pairwise (Arranged key prior)) (hy : ys.Pairwise (Arranged key prior)) :
    let s := cutPoint before xs ys
    let t := (xs.length + ys.length) / 2 - s
    s ≤ (xs.length + ys.length) / 2 ∧
      (∀ x ∈ xs.take s, ∀ y ∈ ys.drop t, key x ≤ key y) ∧
      (∀ y ∈ ys.take t, ∀ x ∈ xs.drop s, key y < key x) := by
  intro s t
  let mid := (xs.length + ys.length) / 2
  let lo := mid - ys.length
  let hi := min mid xs.length
  let p := fun c => beforeAt before ys (mid - 1 - c) xs c
  have hp : ∀ c, lo ≤ c → c < hi → ∀ (h₁ : mid - 1 - c < ys.length) (h₂ : c < xs.length),
      p c = true ↔ key ys[mid - 1 - c] < key xs[c] :=
    fun c _ _ h₁ h₂ => beforeAt_iff hk h₁ h₂
  obtain ⟨hlo, hhi, hfalse, htrue⟩ := searchWithin_spec p (hi - lo) lo (hi - lo) (Nat.le_refl _) (by
    intro i j hi' hij hj hpi
    have h₁ := (hp i (by omega) (by omega) (by omega) (by omega)).mp hpi
    refine (hp j (by omega) (by omega) (by omega) (by omega)).mpr ?_
    have h₂ := key_getElem_le hx hij (by omega)
    have h₃ := key_getElem_le hy (i := mid - 1 - j) (j := mid - 1 - i) (by omega) (by omega)
    omega)
  change lo ≤ s at hlo
  change s ≤ lo + (hi - lo) at hhi
  refine ⟨by omega, ?_, ?_⟩
  · intro x hxm y hym
    obtain ⟨i, hi', rfl⟩ := List.mem_take_iff_getElem.mp hxm
    obtain ⟨j, hj', rfl⟩ := List.mem_drop_iff_getElem.mp hym
    -- the last position that went to the left decides
    have hf := hfalse (s - 1) (by omega) (by change s - 1 < s; omega)
    have hn : ¬ key ys[mid - 1 - (s - 1)] < key xs[s - 1] := fun h => by
      rw [(hp (s - 1) (by omega) (by omega) (by omega) (by omega)).mpr h] at hf
      cases hf
    have h₁ := key_getElem_le hx (i := i) (j := s - 1) (by omega) (by omega)
    have h₂ := key_getElem_le hy (i := mid - 1 - (s - 1)) (j := t + j) (by omega) (by omega)
    omega
  · intro y hym x hxm
    obtain ⟨j, hj', rfl⟩ := List.mem_take_iff_getElem.mp hym
    obtain ⟨i, hi', rfl⟩ := List.mem_drop_iff_getElem.mp hxm
    have ht := (hp s (by omega) (by omega) (by omega) (by omega)).mp
      (htrue s (Nat.le_refl _) (by omega))
    have h₁ := key_getElem_le hx (i := s) (j := s + i) (by omega) (by omega)
    have h₂ := key_getElem_le hy (i := j) (j := mid - 1 - s) (by omega) (by omega)
    omega

/-- A list stays arranged when an element goes in behind all smaller keys. -/
theorem arranged_insert_left {x : α} {ys : List α} (hk : ComparesKeys before key ([x] ++ ys))
    (hs : ys.Pairwise (Arranged key prior)) (hf : ∀ y ∈ ys, prior x y) :
    let i := search (fun h => !beforeAt before ys h [x] 0) 0 ys.length
    (ys.take i ++ x :: ys.drop i).Pairwise (Arranged key prior) := by
  intro i
  obtain ⟨-, hi, hfalse, htrue⟩ := searchWithin_spec (fun h => !beforeAt before ys h [x] 0)
    ys.length 0 ys.length (Nat.le_refl _) (by
      intro a b _ hab hb ha
      rw [Bool.not_eq_true', Bool.eq_false_iff, Ne, beforeAt_iff hk (by omega) (by simp)] at ha ⊢
      have := key_getElem_le hs hab (by omega)
      omega)
  change i ≤ 0 + ys.length at hi
  have hsplit := hs
  rw [← List.take_append_drop i ys, List.pairwise_append] at hsplit
  obtain ⟨h₁, h₂, h₃⟩ := hsplit
  have hlt : ∀ a ∈ ys.take i, key a < key x := by
    intro a ha
    obtain ⟨j, hj, rfl⟩ := List.mem_take_iff_getElem.mp ha
    have hb := hfalse j (Nat.zero_le _) (by change j < i; omega)
    rw [Bool.not_eq_false'] at hb
    simpa using (beforeAt_iff hk (by omega) (by simp)).mp hb
  have hle : ∀ a ∈ ys.drop i, key x ≤ key a := by
    intro a ha
    obtain ⟨j, hj, rfl⟩ := List.mem_drop_iff_getElem.mp ha
    have hb := htrue (i + j) (by change i ≤ i + j; omega) (by omega)
    rw [Bool.not_eq_true', Bool.eq_false_iff, Ne, beforeAt_iff hk (by omega) (by simp)] at hb
    simpa using hb
  refine List.pairwise_append.mpr ⟨h₁, List.pairwise_cons.mpr ⟨?_, h₂⟩, ?_⟩
  · exact fun a ha => .of_le (hle a ha) (hf a (List.mem_of_mem_drop ha))
  · intro a ha b hb
    rcases List.mem_cons.mp hb with rfl | hb
    · exact .inl (hlt a ha)
    · exact h₃ a ha b hb

/-- A list stays arranged when a later element goes in front of all greater keys. -/
theorem arranged_insert_right {y : α} {xs : List α} (hk : ComparesKeys before key (xs ++ [y]))
    (hs : xs.Pairwise (Arranged key prior)) (hf : ∀ x ∈ xs, prior x y) :
    let i := search (fun h => beforeAt before [y] 0 xs h) 0 xs.length
    (xs.take i ++ y :: xs.drop i).Pairwise (Arranged key prior) := by
  intro i
  obtain ⟨-, hi, hfalse, htrue⟩ := searchWithin_spec (fun h => beforeAt before [y] 0 xs h)
    xs.length 0 xs.length (Nat.le_refl _) (by
      intro a b _ hab hb ha
      rw [beforeAt_iff hk (by simp) (by omega)] at ha ⊢
      have := key_getElem_le hs hab (by omega)
      omega)
  change i ≤ 0 + xs.length at hi
  have hsplit := hs
  rw [← List.take_append_drop i xs, List.pairwise_append] at hsplit
  obtain ⟨h₁, h₂, h₃⟩ := hsplit
  have hle : ∀ a ∈ xs.take i, key a ≤ key y := by
    intro a ha
    obtain ⟨j, hj, rfl⟩ := List.mem_take_iff_getElem.mp ha
    have hb := hfalse j (Nat.zero_le _) (by change j < i; omega)
    rw [Bool.eq_false_iff, Ne, beforeAt_iff hk (by simp) (by omega)] at hb
    simpa using hb
  have hlt : ∀ a ∈ xs.drop i, key y < key a := by
    intro a ha
    obtain ⟨j, hj, rfl⟩ := List.mem_drop_iff_getElem.mp ha
    have hb := htrue (i + j) (by change i ≤ i + j; omega) (by omega)
    simpa using (beforeAt_iff hk (by simp) (by omega)).mp hb
  refine List.pairwise_append.mpr ⟨h₁, List.pairwise_cons.mpr ⟨?_, h₂⟩, ?_⟩
  · exact fun a ha => .inl (hlt a ha)
  · intro a ha b hb
    rcases List.mem_cons.mp hb with rfl | hb
    · exact .of_le (hle a ha) (hf a (List.mem_of_mem_take ha))
    · exact h₃ a ha b hb

/-- The merge of two arranged lists is arranged if the first list was in front of the second. -/
theorem mergeWithin_arranged {depth : Nat} {xs ys : List α} (hd : xs.length + ys.length ≤ depth)
    (hk : ComparesKeys before key (xs ++ ys)) (hx : xs.Pairwise (Arranged key prior))
    (hy : ys.Pairwise (Arranged key prior)) (hf : ∀ x ∈ xs, ∀ y ∈ ys, prior x y) :
    (mergeWithin before depth xs ys).Pairwise (Arranged key prior) := by
  fun_induction mergeWithin before depth xs ys with
  | case1 xs ys =>
    have hn : xs = [] := List.length_eq_zero_iff.mp (by omega)
    rw [hn]
    exact hy
  | case2 depth ys => exact hy
  | case3 depth xs h => exact hx
  | case4 depth x ys h i => exact arranged_insert_left hk hy (hf x (by simp))
  | case5 depth xs y h₁ h₂ i =>
    exact arranged_insert_right hk hx fun x hxm => hf x hxm y (by simp)
  | case6 depth xs ys h₁ h₂ h₃ h₄ mid s ih₁ ih₂ =>
    obtain ⟨hsm, hle, hlt⟩ := cutPoint_spec hk hx hy
    change s ≤ mid at hsm
    have hxl : 2 ≤ xs.length := by
      rcases xs with _ | ⟨a, _ | ⟨b, xs⟩⟩
      · exact absurd rfl h₁
      · exact absurd rfl (h₃ a)
      · simp
    have hyl : 2 ≤ ys.length := by
      rcases ys with _ | ⟨a, _ | ⟨b, ys⟩⟩
      · exact absurd rfl h₂
      · exact absurd rfl (h₄ a)
      · simp
    have hxs := hx
    rw [← List.take_append_drop s xs, List.pairwise_append] at hxs
    have hys := hy
    rw [← List.take_append_drop (mid - s) ys, List.pairwise_append] at hys
    refine List.pairwise_append.mpr ⟨ih₁ ?_ ?_ hxs.1 hys.1 ?_, ih₂ ?_ ?_ hxs.2.1 hys.2.1 ?_, ?_⟩
    · simp only [List.length_take]
      omega
    · exact hk.mono (by grind [List.mem_of_mem_take])
    · exact fun a ha b hb => hf a (List.mem_of_mem_take ha) b (List.mem_of_mem_take hb)
    · simp only [List.length_drop]
      omega
    · exact hk.mono (by grind [List.mem_of_mem_drop])
    · exact fun a ha b hb => hf a (List.mem_of_mem_drop ha) b (List.mem_of_mem_drop hb)
    · intro a ha b hb
      have ha := (mergeWithin_perm _ _ _).mem_iff.mp ha
      have hb := (mergeWithin_perm _ _ _).mem_iff.mp hb
      rcases List.mem_append.mp ha with ha | ha <;> rcases List.mem_append.mp hb with hb | hb
      · exact hxs.2.2 a ha b hb
      · exact .of_le (hle a ha b hb) (hf a (List.mem_of_mem_take ha) b (List.mem_of_mem_drop hb))
      · exact .inl (hlt a ha b hb)
      · exact hys.2.2 a ha b hb

/-- A list of blocks that are arranged, the blocks standing in the order that `prior` tells. -/
def ArrangedBlocks (key : α → Int) (prior : α → α → Prop) (bs : List (List α)) : Prop :=
  (∀ b ∈ bs, b.Pairwise (Arranged key prior)) ∧
    bs.Pairwise fun b c => ∀ x ∈ b, ∀ y ∈ c, prior x y

theorem mem_mergePairs {b : List α} : {bs : List (List α)} → b ∈ mergePairs before bs →
    ∀ x ∈ b, ∃ c ∈ bs, x ∈ c
  | [], h, _, _ => by simp [mergePairs] at h
  | [_], h, x, hx => ⟨b, h, hx⟩
  | xs :: ys :: rest, h, x, hx => by
    rcases List.mem_cons.mp h with rfl | h
    · rcases List.mem_append.mp ((mergeWithin_perm _ _ _).mem_iff.mp hx) with hx | hx
      · exact ⟨xs, by simp, hx⟩
      · exact ⟨ys, by simp, hx⟩
    · obtain ⟨c, hc, hx⟩ := mem_mergePairs h x hx
      exact ⟨c, by simp [hc], hx⟩

theorem mergePairs_arranged : {bs : List (List α)} → ComparesKeys before key bs.flatten →
    ArrangedBlocks key prior bs → ArrangedBlocks key prior (mergePairs before bs)
  | [], _, h => h
  | [_], _, h => h
  | xs :: ys :: rest, hk, ⟨hs, hp⟩ => by
    obtain ⟨hxs, hp⟩ := List.pairwise_cons.mp hp
    obtain ⟨hys, hp⟩ := List.pairwise_cons.mp hp
    have hm : (merge before xs ys).Pairwise (Arranged key prior) :=
      mergeWithin_arranged (Nat.le_refl _) (hk.mono (by grind)) (hs xs (by simp))
        (hs ys (by simp)) (hxs ys (by simp))
    obtain ⟨ihs, ihp⟩ : ArrangedBlocks key prior (mergePairs before rest) :=
      mergePairs_arranged (hk.mono (by grind)) ⟨fun b hb => hs b (by simp [hb]), hp⟩
    refine ⟨?_, List.pairwise_cons.mpr ⟨?_, ihp⟩⟩
    · intro b hb
      rcases List.mem_cons.mp hb with rfl | hb
      · exact hm
      · exact ihs b hb
    · intro c hc x hx y hy
      obtain ⟨d, hd, hy⟩ := mem_mergePairs hc y hy
      rcases List.mem_append.mp ((mergeWithin_perm _ _ _).mem_iff.mp hx) with hx | hx
      · exact hxs d (by simp [hd]) x hx y hy
      · exact hys d hd x hx y hy

theorem mergeBlocksWithin_arranged {fuel : Nat} {bs : List (List α)} (hfuel : bs.length ≤ fuel)
    (hk : ComparesKeys before key bs.flatten) (h : ArrangedBlocks key prior bs) :
    (mergeBlocksWithin before fuel bs).Pairwise (Arranged key prior) := by
  fun_induction mergeBlocksWithin before fuel bs with
  | case1 bs =>
    have hn : bs = [] := List.length_eq_zero_iff.mp (by omega)
    simp [hn]
  | case2 fuel => exact .nil
  | case3 fuel xs => exact h.1 xs (by simp)
  | case4 fuel bs h₁ h₂ ih =>
    have hl : 2 ≤ bs.length := by
      rcases bs with _ | ⟨a, _ | ⟨b, bs⟩⟩
      · exact absurd rfl h₁
      · exact absurd rfl (h₂ a)
      · simp
    have hm := length_mergePairs_le before bs
    exact ih (by omega) (hk.mono fun a ha => (mergePairs_perm bs).mem_iff.mp ha)
      (mergePairs_arranged hk h)

/-- When the comparison compares keys, the sort arranges the list by key, and elements with one key
stay in the order in which `prior` relates them. -/
theorem blockSort_arranged {xs : List α} (hk : ComparesKeys before key xs)
    (hp : xs.Pairwise prior) : (blockSort before xs).Pairwise (Arranged key prior) := by
  have hsub : ∀ b ∈ blocks blockSize xs, ∀ x ∈ b, x ∈ xs := by
    intro b hb x hx
    rw [← flatten_blocks blockSize xs]
    exact List.mem_flatten.mpr ⟨b, hb, hx⟩
  -- the blocks as they are cut keep the order of the list
  rw [← flatten_blocks blockSize xs, List.pairwise_flatten] at hp
  refine mergeBlocksWithin_arranged (Nat.le_refl _) ?_ ⟨?_, ?_⟩
  · refine hk.mono fun a ha => ?_
    have h := (flatten_map_perm (insertionSort_perm before) (blocks blockSize xs)).mem_iff.mp ha
    rwa [flatten_blocks] at h
  · intro b hb
    obtain ⟨c, hc, rfl⟩ := List.mem_map.mp hb
    exact insertionSort_arranged (hk.mono (hsub c hc)) (hp.1 c hc)
  · refine List.pairwise_map.mpr (hp.2.imp fun {b c} h x hx y hy => ?_)
    exact h x ((insertionSort_perm before b).mem_iff.mp hx)
      y ((insertionSort_perm before c).mem_iff.mp hy)

/-- Of two elements only one may stand in front of the other. -/
theorem Arranged.asymm {a b : α} (hp : prior a b → ¬ prior b a) (h : Arranged key prior a b) :
    ¬ Arranged key prior b a := by
  rintro (hba | ⟨heq, hba⟩)
  · have := h.key_le
    omega
  · rcases h with hab | ⟨-, hab⟩
    · omega
    · exact hp hab hba

/-- A list whose keys do not fall is arranged already, so the sort leaves it as it is. -/
theorem blockSort_eq_self [DecidableEq α] {xs : List α} (hk : ComparesKeys before key xs)
    (hn : xs.Nodup) (hs : xs.Pairwise fun a b => key a ≤ key b) : blockSort before xs = xs := by
  -- among equal keys the places in the list tell which element is in front
  let prior : α → α → Prop := fun a b => xs.idxOf a < xs.idxOf b
  have hprior : xs.Pairwise prior := by
    refine List.pairwise_iff_getElem.mpr fun i j hi hj hij => ?_
    change xs.idxOf xs[i] < xs.idxOf xs[j]
    rwa [hn.idxOf_getElem i hi, hn.idxOf_getElem j hj]
  have harranged : xs.Pairwise (Arranged key prior) :=
    (hs.and hprior).imp fun ⟨hle, hab⟩ => .of_le hle hab
  refine List.Perm.eq_of_pairwise (fun a b _ _ hab hba => ?_) (blockSort_arranged hk hprior)
    harranged (blockSort_perm before xs)
  exact absurd hba (hab.asymm Nat.lt_asymm)

end Sorted

end StraightLine.Order
