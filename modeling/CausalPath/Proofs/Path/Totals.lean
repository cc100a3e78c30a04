import CausalPath.Proofs.Path.OwnChain
import CausalPath.Proofs.Table
import CausalPath.Report.Document

/-!
# The totals of a path agree

A breakdown adds up the segments of a path twice, by state and by worker. As the segments of a path
follow each other in time, no word overflows on the way, so both sums are the time of the path. The
lists by time are sorted by an order in which no two shares are equal, so neither the order of
recording nor that of a table shows in them.
-/

namespace CausalPath

/-! ## § 1. Sums of words -/

namespace Time

/-- No sum of some of the spans, in whatever order they are added, is too large for a word. -/
def Fit (spans : List Time) : Prop := ∀ part : List Time, part.Subperm spans → sum part < wordCount

theorem sum_eq (spans : List Time) : sum spans = spans.sum := by
  induction spans with
  | nil => rfl
  | cons t rest ih => rw [List.sum_cons, sum, ih]

theorem sum_le_of_subperm {part spans : List Time} (h : part.Subperm spans) :
    sum part ≤ sum spans := by
  obtain ⟨l, hperm, hsub⟩ := h
  rw [← sum_perm hperm, sum_eq, sum_eq]
  exact hsub.sum_le_sum fun _ _ => Nat.zero_le _

/-- It is enough that the sum of all of them fits. -/
theorem fit_of_sum {spans : List Time} (h : sum spans < wordCount) : Fit spans := fun _ hpart =>
  Nat.lt_of_le_of_lt (sum_le_of_subperm hpart) h

end Time

namespace Breakdown

section Shares

variable {κ : Type} [DecidableEq κ] {shares : Table κ TimeShare} {d : Time} {l l' : List (κ × Time)}

/-! ## § 2. Sums of shares -/

/-- The share of a key, which is empty when nothing was recorded under the key. -/
def shareOf (shares : Table κ TimeShare) (k : κ) : TimeShare := (shares.get? k).getD .none

/-- A number of each share, added up. -/
def sumOf (f : TimeShare → Nat) (shares : Table κ TimeShare) : Nat :=
  (shares.entries.map fun e => f e.2).sum

/-- Spans, each recorded under a key. -/
def tallyAll (shares : Table κ TimeShare) (l : List (κ × Time)) : Table κ TimeShare :=
  l.foldl (fun shares e => tally shares e.1 e.2) shares

theorem sumOf_eq (f : TimeShare → Nat) (hnone : f .none = 0) (shares : Table κ TimeShare) (k : κ) :
    sumOf f shares = f (shareOf shares k) + sumOf f (shares.erase k) := by
  unfold shareOf
  cases hk : shares.get? k with
  | none => rw [Table.erase_eq_self hk, Option.getD_none, hnone, Nat.zero_add]
  | some s => simp [sumOf, ((Table.perm_cons_erase hk).map fun e => f e.2).sum_eq]

theorem le_sumOf (f : TimeShare → Nat) (hnone : f .none = 0) (shares : Table κ TimeShare) (k : κ) :
    f (shareOf shares k) ≤ sumOf f shares := by
  rw [sumOf_eq f hnone shares k]
  exact Nat.le_add_right _ _

/-- To record a span changes one share. -/
theorem sumOf_tally (f : TimeShare → Nat) (shares : Table κ TimeShare) (k : κ) (d : Time) :
    sumOf f (tally shares k d) = f ((shareOf shares k).record d) + sumOf f (shares.erase k) := by
  have hperm : (tally shares k d).entries.Perm
      ((k, (shareOf shares k).record d) :: (shares.erase k).entries) := Table.perm_insert _ _ _
  simpa [sumOf] using (hperm.map fun e => f e.2).sum_eq

theorem count_tally (shares : Table κ TimeShare) (k : κ) (d : Time) :
    sumOf (·.count) (tally shares k d) = sumOf (·.count) shares + 1 := by
  have hold := sumOf_eq (·.count) rfl shares k
  have hnew := sumOf_tally (·.count) shares k d
  simp only [TimeShare.record] at hnew
  omega

/-- The totals grow by the span, as long as their sum fits in a word. -/
theorem total_tally (hfit : sumOf (·.total) shares + d < wordCount) :
    sumOf (·.total) (tally shares k d) = sumOf (·.total) shares + d := by
  have hold := sumOf_eq (·.total) rfl shares k
  have hnew := sumOf_tally (·.total) shares k d
  have hshare : ((shareOf shares k).total + d) % wordCount = (shareOf shares k).total + d :=
    Nat.mod_eq_of_lt (by omega)
  simp only [TimeShare.record, hshare] at hnew
  omega

theorem count_tallyAll (shares : Table κ TimeShare) (l : List (κ × Time)) :
    sumOf (·.count) (tallyAll shares l) = sumOf (·.count) shares + l.length := by
  induction l generalizing shares with
  | nil => rfl
  | cons e rest ih =>
    show sumOf (·.count) (tallyAll (tally shares e.1 e.2) rest) = _
    rw [ih, count_tally, List.length_cons, Nat.add_assoc, Nat.add_comm 1]

theorem total_tallyAll (shares : Table κ TimeShare) (l : List (κ × Time))
    (hfit : sumOf (·.total) shares + (l.map (·.2)).sum < wordCount) :
    sumOf (·.total) (tallyAll shares l) = sumOf (·.total) shares + (l.map (·.2)).sum := by
  induction l generalizing shares with
  | nil => rfl
  | cons e rest ih =>
    rw [List.map_cons, List.sum_cons, ← Nat.add_assoc] at hfit ⊢
    have hfirst : sumOf (·.total) (tally shares e.1 e.2) = sumOf (·.total) shares + e.2 :=
      total_tally (Nat.lt_of_le_of_lt (Nat.le_add_right _ _) hfit)
    rw [← hfirst] at hfit ⊢
    exact ih _ hfit

/-! ## § 3. The order of recording -/

/-- The spans that are recorded under a key. -/
def spansOf (k : κ) (l : List (κ × Time)) : List Time := (l.filter (·.1 = k)).map (·.2)

theorem record_comm (s : TimeShare) (a b : Time) :
    (s.record a).record b = (s.record b).record a := by
  have htotal : ((s.total + a) % wordCount + b) % wordCount =
      ((s.total + b) % wordCount + a) % wordCount := by
    rw [Nat.mod_add_mod, Nat.mod_add_mod, Nat.add_right_comm]
  simp only [TimeShare.record, htotal, max_right_comm]

theorem get?_tally (shares : Table κ TimeShare) (j k : κ) (d : Time) :
    (tally shares j d).get? k =
      if j = k then some ((shareOf shares k).record d) else shares.get? k := by
  rw [tally, Table.get?_insert]
  split
  · rename_i hjk
    rw [← hjk]
    rfl
  · rfl

/-- The share of a key is that of the spans that are recorded under it. -/
theorem get?_tallyAll (shares : Table κ TimeShare) (l : List (κ × Time)) (k : κ) :
    (tallyAll shares l).get? k = if spansOf k l = [] then shares.get? k else
      some ((spansOf k l).foldl TimeShare.record (shareOf shares k)) := by
  induction l generalizing shares with
  | nil => rfl
  | cons e rest ih =>
    show (tallyAll (tally shares e.1 e.2) rest).get? k = _
    rw [ih, shareOf, get?_tally]
    by_cases he : e.1 = k
    · have hspans : spansOf k (e :: rest) = e.2 :: spansOf k rest := by simp [spansOf, he]
      rw [hspans, if_pos he, if_neg (List.cons_ne_nil _ _)]
      split
      · rename_i hnone
        rw [hnone]
        rfl
      · rfl
    · have hspans : spansOf k (e :: rest) = spansOf k rest := by simp [spansOf, he]
      rw [hspans, if_neg he]
      rfl

/-- The order of recording does not show in the shares. -/
theorem perm_tallyAll (shares : Table κ TimeShare) (h : l.Perm l') :
    (tallyAll shares l).entries.Perm (tallyAll shares l').entries := by
  refine Table.perm_of_view fun k => ?_
  have hspans : (spansOf k l).Perm (spansOf k l') := (h.filter _).map _
  rw [get?_tallyAll, get?_tallyAll,
    hspans.foldl_eq' (fun a _ b _ s => record_comm s a b) (shareOf shares k)]
  simp only [← List.length_eq_zero_iff, hspans.length_eq]

end Shares

/-! ## § 4. Lists by time -/

section Lists

variable {κ : Type} {keyLe : κ → κ → Bool}

/-- A test that orders keys, so that any two keys are in order, and both ways only if equal. -/
structure KeyOrder (keyLe : κ → κ → Bool) : Prop where
  total : ∀ x y, keyLe x y = true ∨ keyLe y x = true
  trans : ∀ x y z, keyLe x y = true → keyLe y z = true → keyLe x z = true
  antisymm : ∀ x y, keyLe x y = true → keyLe y x = true → x = y

theorem keyOrder_code : KeyOrder fun x y : EdgeState => decide (x.code ≤ y.code) := by
  refine ⟨?_, ?_, ?_⟩
  · intro x y
    simpa using Nat.le_total x.code y.code
  · intro x y z hxy hyz
    simp only [decide_eq_true_eq] at hxy hyz ⊢
    exact Nat.le_trans hxy hyz
  · intro x y hxy hyx
    simp only [decide_eq_true_eq] at hxy hyx
    rw [← EdgeState.ofCode_code x, ← EdgeState.ofCode_code y, Nat.le_antisymm hxy hyx]

theorem keyOrder_text : KeyOrder fun x y : String => (compare x y).isLE := by
  refine ⟨?_, ?_, ?_⟩
  · intro x y
    have hswap : compare y x = (compare x y).swap := Std.OrientedOrd.eq_swap
    rw [hswap]
    cases compare x y <;> simp
  · intro x y z
    exact Std.TransCmp.isLE_trans
  · intro x y hxy hyx
    exact Std.LawfulEqOrd.eq_of_compare (Std.OrientedCmp.isLE_antisymm hxy hyx)

theorem precedes_iff {a b : κ × TimeShare} :
    precedes keyLe a b = true ↔
      b.2.total < a.2.total ∨ a.2.total = b.2.total ∧ keyLe a.1 b.1 = true := by
  simp [precedes]

/-- Shares of different keys are sorted in one way only. -/
theorem KeyOrder.mergeSort_eq (h : KeyOrder keyLe) {es es' : List (κ × TimeShare)}
    (hkeys : (es'.map (·.1)).Nodup) (hperm : es.Perm es') :
    es.mergeSort (precedes keyLe) = es'.mergeSort (precedes keyLe) := by
  have htrans : ∀ a b c : κ × TimeShare, precedes keyLe a b = true → precedes keyLe b c = true →
      precedes keyLe a c = true := by
    simp only [precedes_iff]
    rintro a b c (hab | ⟨hab, hkab⟩) (hbc | ⟨hbc, hkbc⟩)
    · exact Or.inl (Nat.lt_trans hbc hab)
    · exact Or.inl (hbc ▸ hab)
    · exact Or.inl (hab ▸ hbc)
    · exact Or.inr ⟨hab.trans hbc, h.trans _ _ _ hkab hkbc⟩
  have htotal : ∀ a b : κ × TimeShare, (precedes keyLe a b || precedes keyLe b a) = true := by
    intro a b
    rw [Bool.or_eq_true, precedes_iff, precedes_iff]
    rcases Nat.lt_trichotomy a.2.total b.2.total with hlt | heq | hlt
    · exact Or.inr (Or.inl hlt)
    · rcases h.total a.1 b.1 with hle | hle
      · exact Or.inl (Or.inr ⟨heq, hle⟩)
      · exact Or.inr (Or.inr ⟨heq.symm, hle⟩)
    · exact Or.inl (Or.inl hlt)
  have hsorted := (List.mergeSort_perm es (precedes keyLe)).trans
    (hperm.trans (List.mergeSort_perm es' (precedes keyLe)).symm)
  refine hsorted.eq_of_pairwise ?_ (List.pairwise_mergeSort htrans htotal es)
    (List.pairwise_mergeSort htrans htotal es')
  intro a b ha hb hab hba
  have ha' : a ∈ es' := hperm.subset (List.mem_mergeSort.1 ha)
  have hb' : b ∈ es' := List.mem_mergeSort.1 hb
  -- neither total is the larger one, so the keys decide, and a key has one share
  rw [precedes_iff] at hab hba
  have hkey : a.1 = b.1 := by
    rcases hab with hab | ⟨heq, hle⟩ <;> rcases hba with hba | ⟨heq', hle'⟩
    · exact absurd hab (Nat.lt_asymm hba)
    · exact absurd hab (heq' ▸ Nat.lt_irrefl _)
    · exact absurd hba (heq ▸ Nat.lt_irrefl _)
    · exact h.antisymm _ _ hle hle'
  exact List.inj_on_of_nodup_map hkeys ha' hb' hkey

end Lists

/-! ## § 5. Segments -/

section Segments

variable {κ : Type} [DecidableEq κ] {l l' done rest : List PathSegment} {x : PathSegment}

/-- The shares of segments under keys of their own. -/
def sharesBy (key : PathSegment → κ) (l : List PathSegment) : Table κ TimeShare :=
  tallyAll .empty (l.map fun x => (key x, x.duration))

theorem foldl_record (b : Breakdown) (l : List PathSegment) :
    (l.foldl record b).byState = tallyAll b.byState (l.map fun x => (x.state, x.duration)) ∧
      (l.foldl record b).byWorker =
        tallyAll b.byWorker (l.map fun x => (toString x.worker, x.duration)) := by
  induction l generalizing b with
  | nil => exact ⟨rfl, rfl⟩
  | cons x rest ih => exact ih (b.record x)

theorem byState_ofSegments (l : List PathSegment) :
    (ofSegments l).byState = sharesBy (·.state) l := (foldl_record empty l).1

theorem byWorker_ofSegments (l : List PathSegment) :
    (ofSegments l).byWorker = sharesBy (fun x => toString x.worker) l := (foldl_record empty l).2

theorem count_sharesBy (key : PathSegment → κ) (l : List PathSegment) :
    ((sharesBy key l).entries.map (·.2.count)).sum = l.length := by
  have hcount := count_tallyAll .empty (l.map fun x => (key x, x.duration))
  rw [List.length_map] at hcount
  exact hcount.trans (Nat.zero_add _)

/-- The totals of the shares add up to the time of the segments, if that fits in a word. -/
theorem total_sharesBy (key : PathSegment → κ) (hfit : Time.sum (l.map (·.duration)) < wordCount) :
    Time.sum ((sharesBy key l).entries.map (·.2.total)) = Time.sum (l.map (·.duration)) := by
  have hspans : ((l.map fun x => (key x, x.duration)).map (·.2)).sum =
      Time.sum (l.map (·.duration)) := by
    rw [Time.sum_eq, List.map_map]
    rfl
  have hempty : sumOf (·.total) (.empty : Table κ TimeShare) = 0 := rfl
  have htotal := total_tallyAll .empty (l.map fun x => (key x, x.duration))
  rw [hspans, hempty, Nat.zero_add] at htotal
  rw [Time.sum_eq]
  exact htotal hfit

theorem perm_sharesBy (key : PathSegment → κ) (h : l.Perm l') :
    (sharesBy key l).entries.Perm (sharesBy key l').entries := perm_tallyAll _ (h.map _)

/-- Another segment can be recorded under a key: its share has not more than these segments, and its
total stays within a word. -/
def HasRoom (shares : Table κ TimeShare) (k : κ) (most : Nat) (d : Time) : Prop :=
  (shareOf shares k).count + 1 ≤ most ∧ (shareOf shares k).total + d < wordCount

/-- While segments are recorded whose time fits in a word, there is room for the next one. -/
theorem hasRoom_sharesBy (key : PathSegment → κ)
    (hfit : Time.sum ((done ++ x :: rest).map (·.duration)) < wordCount) :
    HasRoom (sharesBy key done) (key x) (done ++ x :: rest).length x.duration := by
  rw [List.map_append, List.map_cons, Time.sum_append, Time.sum] at hfit
  have hdone : Time.sum (done.map (·.duration)) < wordCount :=
    Nat.lt_of_le_of_lt (Nat.le_add_right _ _) hfit
  have hcount := le_sumOf (·.count) rfl (sharesBy key done) (key x)
  have htotal := le_sumOf (·.total) rfl (sharesBy key done) (key x)
  rw [sumOf, count_sharesBy] at hcount
  rw [sumOf, ← Time.sum_eq, total_sharesBy key hdone] at htotal
  constructor
  · rw [List.length_append, List.length_cons]
    omega
  · exact Nat.lt_of_le_of_lt (Nat.add_le_add htotal (Nat.le_add_right _ _)) hfit

/-- However the segments were ordered and the tables are enumerated, the lists by time are those of
the breakdown. -/
theorem listed_of_perm (h : l.Perm l') :
    (∀ es : List (EdgeState × TimeShare), es.Perm (ofSegments l).byState.entries →
      es.mergeSort (precedes fun x y => x.code ≤ y.code) = (ofSegments l').statesByTime) ∧
    ∀ es : List (String × TimeShare), es.Perm (ofSegments l).byWorker.entries →
      es.mergeSort (precedes fun x y => (compare x y).isLE) = (ofSegments l').workersByTime := by
  constructor
  · intro es hes
    refine keyOrder_code.mergeSort_eq (ofSegments l').byState.distinct (hes.trans ?_)
    rw [byState_ofSegments, byState_ofSegments]
    exact perm_sharesBy _ h
  · intro es hes
    refine keyOrder_text.mergeSort_eq (ofSegments l').byWorker.distinct (hes.trans ?_)
    rw [byWorker_ofSegments, byWorker_ofSegments]
    exact perm_sharesBy _ h

end Segments

end Breakdown

/-! ## § 6. Paths -/

namespace CriticalPath

variable {p : CriticalPath}

/-- The sums of a path and of its breakdown agree. -/
structure Agrees (p : CriticalPath) : Prop where
  total : p.breakdown.total = p.totalDuration
  workerTotals : Time.sum (p.breakdown.byWorker.entries.map (·.2.total)) = p.totalDuration
  reportedTotals : Time.sum (p.breakdown.stateTimes.map (·.total)) = p.totalDuration
  count : p.breakdown.count = p.segments.length
  workerCounts : (p.breakdown.byWorker.entries.map (·.2.count)).sum = p.segments.length
  reportedCounts : (p.breakdown.stateTimes.map (·.segments)).sum = p.segments.length

/-- No word overflows while the sums are taken. Numbers of segments are no larger than the number of
edges of the output graph. -/
structure Fits (p : CriticalPath) : Prop where
  durations : Time.Fit (p.segments.map (·.duration))
  recorded : ∀ done x rest, p.segments = done ++ x :: rest →
    Breakdown.HasRoom (Breakdown.ofSegments done).byState x.state p.segments.length x.duration ∧
      Breakdown.HasRoom (Breakdown.ofSegments done).byWorker (toString x.worker)
        p.segments.length x.duration
  stateTotals : Time.Fit (p.breakdown.byState.entries.map (·.2.total))
  workerTotals : Time.Fit (p.breakdown.byWorker.entries.map (·.2.total))
  stateCounts : ∀ part : List Nat, part.Subperm (p.breakdown.byState.entries.map (·.2.count)) →
    part.sum ≤ p.segments.length
  counts : p.segments.length ≤ p.graph.edgeCount

theorem length_segments_le (p : CriticalPath) : p.segments.length ≤ p.graph.edgeCount := by
  have hlist : p.graph.edgeList.length ≤ p.graph.edgeIds.length := List.length_filterMap_le _ _
  have hids : p.graph.edgeIds.length = p.graph.edgeCount := by simp [Graph.edgeIds, Graph.edgeCount]
  rw [segments, List.length_mergeSort]
  exact Nat.le_trans (List.length_filterMap_le _ _) (hids ▸ hlist)

/-- The lists of a report are those of the states, in another order. -/
theorem perm_stateTimes (b : Breakdown) : b.stateTimes.Perm
    (b.byState.entries.map fun e => ⟨e.1, e.2.count, e.2.total⟩) :=
  (List.mergeSort_perm _ _).map _

theorem byState_breakdown (p : CriticalPath) :
    p.breakdown.byState = Breakdown.sharesBy (·.state) p.segments :=
  Breakdown.byState_ofSegments _

theorem byWorker_breakdown (p : CriticalPath) :
    p.breakdown.byWorker = Breakdown.sharesBy (fun x => toString x.worker) p.segments :=
  Breakdown.byWorker_ofSegments _

/-- The sums agree if the time of the segments fits in a word. -/
theorem agrees_of_sum (hfit : Time.sum (p.segments.map (·.duration)) < wordCount) : p.Agrees := by
  have hpath : p.totalDuration = Time.sum (p.segments.map (·.duration)) := Time.total_eq_sum hfit
  have hlisted := perm_stateTimes p.breakdown
  rw [p.byState_breakdown] at hlisted
  refine ⟨?_, ?_, ?_, ?_, ?_, ?_⟩
  · rw [Breakdown.total, p.byState_breakdown, Time.total, Breakdown.total_sharesBy _ hfit]
    rfl
  · rw [p.byWorker_breakdown, Breakdown.total_sharesBy _ hfit, hpath]
  · rw [Time.sum_perm (hlisted.map _), List.map_map, hpath]
    exact Breakdown.total_sharesBy _ hfit
  · rw [Breakdown.count, ← List.sum_eq_foldl, p.byState_breakdown, Breakdown.count_sharesBy]
  · rw [p.byWorker_breakdown, Breakdown.count_sharesBy]
  · rw [(hlisted.map _).sum_eq, List.map_map]
    exact Breakdown.count_sharesBy _ _

/-- No word overflows if the time of the segments fits in one. -/
theorem fits_of_sum (hfit : Time.sum (p.segments.map (·.duration)) < wordCount) : p.Fits where
  durations := Time.fit_of_sum hfit
  recorded done x rest hl := by
    rw [hl] at hfit ⊢
    rw [Breakdown.byState_ofSegments, Breakdown.byWorker_ofSegments]
    exact ⟨Breakdown.hasRoom_sharesBy _ hfit, Breakdown.hasRoom_sharesBy _ hfit⟩
  stateTotals := by
    rw [p.byState_breakdown]
    exact Time.fit_of_sum (Nat.lt_of_le_of_lt (Breakdown.total_sharesBy _ hfit).le hfit)
  workerTotals := by
    rw [p.byWorker_breakdown]
    exact Time.fit_of_sum (Nat.lt_of_le_of_lt (Breakdown.total_sharesBy _ hfit).le hfit)
  stateCounts part hpart := by
    have hle := Time.sum_le_of_subperm hpart
    rwa [Time.sum_eq, Time.sum_eq, p.byState_breakdown, Breakdown.count_sharesBy] at hle
  counts := p.length_segments_le

end CriticalPath

/-- The segments of a critical path take no longer than the time of the vertex that it starts from. -/
theorem Graph.Sound.sum_le_start {g : Graph} (h : g.Sound) (heps : g.EpsilonInstant)
    {start : VertexId} {stop : Option VertexId} {cancelled : Bool} {p : CriticalPath}
    (hok : g.criticalPath start stop cancelled = .ok p) :
    ∃ s, g.vertex? start = some s ∧ Time.sum (p.segments.map (·.duration)) ≤ s.time := by
  obtain ⟨s, -, -, -, -, hs, -, -, -, -⟩ := Graph.criticalPath_eq_ok hok
  obtain ⟨oldest, steps, hr, hperm⟩ := Graph.criticalPath_segments h heps hs hok
  obtain rfl := Graph.vertex?_id hs
  refine ⟨s, hs, ?_⟩
  calc Time.sum (p.segments.map (·.duration))
    _ = Time.sum ((g.segmentsOf s.worker steps).map (·.duration)) := Time.sum_perm (hperm.map _)
    _ ≤ s.time - oldest.time := hr.sum_le h heps hs
    _ ≤ s.time := Nat.sub_le _ _

/-- In a graph whose hops take no time and whose times are words, all time totals of a critical path
agree, all numbers of its segments agree, and no word overflows while they are added up. The lists by
time of any segments depend neither on the order of recording nor on that of the tables. -/
theorem totals_agree :
    (∀ g : Graph, g.Built → g.EpsilonInstant → (∀ r ∈ g.vertices, r.time < wordCount) →
      ∀ start stop cancelled p, g.criticalPath start stop cancelled = .ok p → p.Agrees ∧ p.Fits) ∧
    ∀ l l' : List PathSegment, l.Perm l' →
      (∀ es : List (EdgeState × TimeShare), es.Perm (Breakdown.ofSegments l).byState.entries →
        es.mergeSort (Breakdown.precedes fun x y => x.code ≤ y.code) =
          (Breakdown.ofSegments l').statesByTime) ∧
      ∀ es : List (String × TimeShare), es.Perm (Breakdown.ofSegments l).byWorker.entries →
        es.mergeSort (Breakdown.precedes fun x y => (compare x y).isLE) =
          (Breakdown.ofSegments l').workersByTime := by
  refine ⟨?_, fun l l' h => Breakdown.listed_of_perm h⟩
  intro g hbuilt heps hwords start stop cancelled p hok
  obtain ⟨s, hs, hle⟩ := hbuilt.sound.sum_le_start heps hok
  obtain ⟨r, hr, rfl⟩ := Option.map_eq_some_iff.1 hs
  have hfit := Nat.lt_of_le_of_lt hle (hwords r (Array.mem_of_getElem? hr))
  exact ⟨p.agrees_of_sum hfit, p.fits_of_sum hfit⟩

open CausalPath.Graph in
/-- The path of the second worker of `severed` runs for seven units and does something unknown for
three, on two workers. Its states are listed in the same way if its last segment is recorded first. -/
theorem totals_agree_of_severed : ∃ p, severed.criticalPath ⟨5⟩ none false = .ok p ∧
    p.breakdown.statesByTime = [(.running, ⟨2, 7, 4⟩), (.unknown, ⟨1, 3, 3⟩)] ∧
    p.breakdown.byWorker.entries.length = 2 ∧ p.totalDuration = 10 ∧ p.Agrees ∧ p.Fits ∧
    (Breakdown.ofSegments p.segments.reverse).statesByTime = p.breakdown.statesByTime := by
  have hsome : (severed.criticalPath ⟨5⟩ none false).map (fun p =>
      (p.breakdown.statesByTime, p.breakdown.byWorker.entries.length, p.totalDuration)) =
      .ok ([(.running, ⟨2, 7, 4⟩), (.unknown, ⟨1, 3, 3⟩)], 2, 10) := by cbv
  obtain ⟨p, hok, hp⟩ := map_eq_ok.1 hsome
  obtain ⟨hstates, hworkers, htotal⟩ : _ ∧ _ ∧ _ := by simpa using hp
  have hbuilt : severed.Built := ⟨0, _, rfl⟩
  have heps : severed.EpsilonInstant := epsilonInstant_iff.2 (by cbv)
  have hwords : ∀ r ∈ severed.vertices, r.time < wordCount := by decide +kernel
  obtain ⟨hpaths, hlisted⟩ := totals_agree
  obtain ⟨hagrees, hfits⟩ := hpaths _ hbuilt heps hwords _ _ _ _ hok
  obtain ⟨hstate, -⟩ := hlisted p.segments.reverse p.segments (List.reverse_perm _)
  exact ⟨p, hok, hstates, hworkers, htotal, hagrees, hfits, hstate _ (.refl _)⟩

end CausalPath
