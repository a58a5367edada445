import CardLimits.Store.BlockTable
/-!
# The cutoff among the update times

The cutoff for a card limit is the update time of a card in its place when the
newest come first.  Whatever stands in a place of such a list has at most as many
newer times as there are places before it (`Descending.countP_newer_le`), so fewer
cards than the limit are newer than the cutoff (`BlockTable.countP_newer_lt`).  A
higher limit names a later place, so its cutoff is not newer
(`BlockTable.cutoffFor_le_of_raised`); the last place is that of the oldest card
(`BlockTable.cutoffFor_of_full`).
-/

namespace CardLimits

/-- A positive limit is a positive number of cards. -/
theorem toInt_pos {limit : Int32} (positive : 0 < limit) : 0 < limit.toInt := by
  simpa using Int32.lt_iff_toInt_lt.mp positive

/-- Times of which none is newer than an earlier one. -/
def Descending (times : List Int64) : Prop :=
  times.Pairwise fun earlier later => later ≤ earlier

/-- No time from a place on is newer than the one in that place. -/
theorem Descending.le_of_mem_drop {times : List Int64} (descending : Descending times)
    {index : Nat} (inside : index < times.length) {time : Int64}
    (behind : time ∈ times.drop index) : time ≤ times[index] := by
  rw [List.drop_eq_getElem_cons inside] at behind
  rcases List.mem_cons.mp behind with rfl | further
  · exact Int64.le_refl _
  · have split : Descending (times[index] :: times.drop (index + 1)) := by
      rw [← List.drop_eq_getElem_cons inside]
      exact List.Pairwise.drop descending
    exact (List.pairwise_cons.mp split).1 time further

/-- Of the times in two places the later one is not newer. -/
theorem Descending.getElem_le {times : List Int64} (descending : Descending times)
    {index later : Nat} (ordered : index ≤ later) (inside : later < times.length) :
    times[later] ≤ times[index] := by
  have behind : times[later] ∈ times.drop index :=
    List.mem_drop_iff_getElem.mpr ⟨later - index, by omega, by congr 1; omega⟩
  exact descending.le_of_mem_drop (by omega) behind

/-- The time in a place and those before it are as new as itself. -/
theorem Descending.lt_countP_getElem {times : List Int64} (descending : Descending times)
    {index : Nat} (inside : index < times.length) :
    index < times.countP (fun time => times[index] ≤ time) := by
  have upTo : (times.take (index + 1)).countP (fun time => times[index] ≤ time) =
      (times.take (index + 1)).length := by
    refine List.countP_eq_length.mpr fun time before => decide_eq_true ?_
    obtain ⟨place, placeInside, rfl⟩ := List.mem_take_iff_getElem.mp before
    exact descending.getElem_le (by omega) inside
  have inFront := (List.take_sublist (index + 1) times).countP_le
    (p := fun time => times[index] ≤ time)
  rw [upTo, List.length_take] at inFront
  omega

/-- At most as many times are newer than the one in a place as stand before it. -/
theorem Descending.countP_newer_le {times : List Int64} (descending : Descending times)
    {index : Nat} (inside : index < times.length) :
    times.countP (fun time => times[index] < time) ≤ index := by
  have noneBehind : (times.drop index).countP (fun time => times[index] < time) = 0 := by
    refine List.countP_eq_zero.mpr fun time behind newer => ?_
    have older := descending.le_of_mem_drop inside behind
    exact Int64.not_lt.mpr older (of_decide_eq_true newer)
  calc times.countP (fun time => times[index] < time)
      = (times.take index ++ times.drop index).countP (fun time => times[index] < time) := by
        rw [List.take_append_drop]
    _ = (times.take index).countP (fun time => times[index] < time) := by
        rw [List.countP_append, noneBehind, Nat.add_zero]
    _ ≤ (times.take index).length := List.countP_le_length
    _ ≤ index := by
        rw [List.length_take]
        exact Nat.min_le_left index times.length

/-- If more times than stand before a place are as new as a bound, so is the time in it. -/
theorem Descending.le_getElem_of_lt_countP {times : List Int64} (descending : Descending times)
    {index : Nat} (inside : index < times.length) {bound : Int64}
    (enough : index < times.countP (fun time => bound ≤ time)) : bound ≤ times[index] := by
  refine Int64.not_lt.mp fun older => ?_
  have newer : times.countP (fun time => bound ≤ time) ≤
      times.countP (fun time => times[index] < time) := by
    refine List.countP_mono_left fun time _ reaches => ?_
    exact decide_eq_true (Int64.lt_of_lt_of_le older (of_decide_eq_true reaches))
  have few := descending.countP_newer_le inside
  omega

/-- Sorted by their times, the newest first, no item is newer than an earlier one. -/
theorem pairwise_mergeSort_newest {α : Type} (time : α → Int64) (items : List α) :
    (items.mergeSort fun earlier later => time later ≤ time earlier).Pairwise
      fun earlier later => time later ≤ time earlier := by
  have sorted := @List.pairwise_mergeSort α (fun earlier later => time later ≤ time earlier)
    (fun first second third newer older => by
      simp only [decide_eq_true_eq] at newer older ⊢
      exact Int64.le_trans older newer)
    (fun first second => by
      simp only [Bool.or_eq_true, decide_eq_true_eq]
      exact Int64.le_total (time second) (time first))
    items
  exact sorted.imp fun inOrder => of_decide_eq_true inOrder

namespace BlockTable

/-- The counted times are the update times of the counted cards, in some order. -/
theorem countedTimes_perm (table : BlockTable) :
    table.countedTimes.Perm (table.countedCards.map Block.updateAt) :=
  List.mergeSort_perm _ _

/-- The newest counted time comes first. -/
theorem countedTimes_descending (table : BlockTable) : Descending table.countedTimes :=
  pairwise_mergeSort_newest id _

/-- As many times are counted as cards. -/
theorem length_countedTimes (table : BlockTable) :
    table.countedTimes.length = table.countedCards.length := by
  rw [table.countedTimes_perm.length_eq, List.length_map]

/-- As many times pass a test as there are cards whose times do. -/
theorem countP_countedTimes (table : BlockTable) (test : Int64 → Bool) :
    table.countedTimes.countP test = table.countedCards.countP fun card => test card.updateAt := by
  rw [table.countedTimes_perm.countP_eq, List.countP_map]
  rfl

/-- Without a positive limit there is no cutoff. -/
theorem cutoffFor_of_not_positive {table : BlockTable} {limit : Int32} (nothing : limit ≤ 0) :
    table.cutoffFor limit = 0 := by
  rw [cutoffFor, if_neg (Int32.not_lt.mpr nothing)]

/-- If as many cards count as a positive limit says, the cutoff for it is the time in the
place that it names. -/
theorem cutoffFor_of_inside {table : BlockTable} {limit : Int32} (positive : 0 < limit)
    (inside : limit.toInt.toNat - 1 < table.countedTimes.length) :
    table.cutoffFor limit = table.countedTimes[limit.toInt.toNat - 1] := by
  rw [cutoffFor, if_pos positive, List.getElem?_eq_getElem inside, Option.getD_some]

/-- If fewer cards count than the limit says, there is no cutoff. -/
theorem cutoffFor_of_room {table : BlockTable} {limit : Int32}
    (room : table.countedCards.length < limit.toInt.toNat) : table.cutoffFor limit = 0 := by
  have outside : table.countedTimes.length ≤ limit.toInt.toNat - 1 := by
    rw [table.length_countedTimes]
    omega
  rw [cutoffFor, List.getElem?_eq_none outside, Option.getD_none, ite_self]

/-- If there is a cutoff for a positive limit, it is the time in the place that the limit
names. -/
theorem cutoffFor_eq_getElem {table : BlockTable} {limit : Int32} (positive : 0 < limit)
    (reached : table.cutoffFor limit ≠ 0) :
    ∃ inside : limit.toInt.toNat - 1 < table.countedTimes.length,
      table.cutoffFor limit = table.countedTimes[limit.toInt.toNat - 1] := by
  by_cases inside : limit.toInt.toNat - 1 < table.countedTimes.length
  · exact ⟨inside, cutoffFor_of_inside positive inside⟩
  · rw [cutoffFor, List.getElem?_eq_none (Nat.not_lt.mp inside), Option.getD_none,
      ite_self] at reached
    exact absurd rfl reached

/-- A higher limit does not have a newer cutoff, as long as it has one. -/
theorem cutoffFor_le_of_raised {table : BlockTable} {tight loose : Int32} (positive : 0 < tight)
    (raised : tight ≤ loose) (reached : table.cutoffFor loose ≠ 0) :
    table.cutoffFor loose ≤ table.cutoffFor tight := by
  have inOrder : tight.toInt ≤ loose.toInt := Int32.le_iff_toInt_le.mp raised
  have earlier : tight.toInt.toNat - 1 ≤ loose.toInt.toNat - 1 := by omega
  have loosePositive : 0 < loose := Int32.lt_of_lt_of_le positive raised
  obtain ⟨inside, cutoff⟩ := cutoffFor_eq_getElem loosePositive reached
  rw [cutoff, cutoffFor_of_inside positive (Nat.lt_of_le_of_lt earlier inside)]
  exact table.countedTimes_descending.getElem_le earlier inside

/-- If exactly as many cards count as the limit says, the cutoff is the time of the oldest of
them. -/
theorem cutoffFor_of_full {table : BlockTable} {limit : Int32} (positive : 0 < limit)
    (full : table.countedCards.length = limit.toInt.toNat) :
    ∃ oldest ∈ table.countedCards, table.cutoffFor limit = oldest.updateAt ∧
      ∀ card ∈ table.countedCards, oldest.updateAt ≤ card.updateAt := by
  have positiveInt := toInt_pos positive
  have length : table.countedTimes.length = limit.toInt.toNat :=
    table.length_countedTimes.trans full
  have inside : limit.toInt.toNat - 1 < table.countedTimes.length := by omega
  have sameTimes (time : Int64) :
      time ∈ table.countedTimes ↔ ∃ card ∈ table.countedCards, card.updateAt = time :=
    table.countedTimes_perm.mem_iff.trans List.mem_map
  obtain ⟨oldest, counted, last⟩ := (sameTimes _).mp (List.getElem_mem inside)
  refine ⟨oldest, counted, (cutoffFor_of_inside positive inside).trans last.symm, ?_⟩
  intro card cardCounted
  obtain ⟨place, placeInside, time⟩ :=
    List.mem_iff_getElem.mp ((sameTimes _).mpr ⟨card, cardCounted, rfl⟩)
  rw [last, ← time]
  exact table.countedTimes_descending.getElem_le (by omega) inside

/-- Fewer cards than the limit are newer than a cutoff for it. -/
theorem countP_newer_lt {table : BlockTable} {limit : Int32} (positive : 0 < limit)
    (reached : table.cutoffFor limit ≠ 0) :
    table.countedCards.countP (fun card => table.cutoffFor limit < card.updateAt) <
      limit.toInt.toNat := by
  obtain ⟨inside, cutoff⟩ := cutoffFor_eq_getElem positive reached
  have positiveInt := toInt_pos positive
  have newer := table.countedTimes_descending.countP_newer_le inside
  rw [countP_countedTimes] at newer
  rw [cutoff]
  omega

/-- As many cards as the limit says are as new as a cutoff for it. -/
theorem le_countP_reaching {table : BlockTable} {limit : Int32} (positive : 0 < limit)
    (reached : table.cutoffFor limit ≠ 0) :
    limit.toInt.toNat ≤
      table.countedCards.countP (fun card => table.cutoffFor limit ≤ card.updateAt) := by
  obtain ⟨inside, cutoff⟩ := cutoffFor_eq_getElem positive reached
  have reaching := table.countedTimes_descending.lt_countP_getElem inside
  rw [countP_countedTimes] at reaching
  rw [cutoff]
  omega

/-- If as many cards as the limit says are as new as a bound, so is the cutoff. -/
theorem le_cutoffFor {table : BlockTable} {limit : Int32} (positive : 0 < limit) {bound : Int64}
    (enough : limit.toInt.toNat ≤
      table.countedCards.countP (fun card => bound ≤ card.updateAt)) :
    bound ≤ table.cutoffFor limit := by
  have positiveInt := toInt_pos positive
  have inside : limit.toInt.toNat - 1 < table.countedTimes.length := by
    have most := Nat.le_trans enough List.countP_le_length
    rw [table.length_countedTimes]
    omega
  rw [cutoffFor_of_inside positive inside]
  refine table.countedTimes_descending.le_getElem_of_lt_countP inside ?_
  rw [countP_countedTimes]
  omega

end BlockTable

end CardLimits
