import EsdcFactory.Zabbix.KvmReplies
import Mathlib.Tactic.Linarith
import Mathlib.Tactic.NormNum

/-!
# Rates over the life of a machine

The counters of a disk start again from zero when its machine is booted again.  The
script takes the difference to what it remembers of the disk, whichever boot of the
machine that was.
-/

namespace EsdcFactory
namespace Zabbix
namespace KvmIostat

/-!
## Machines over time
-/

/-- A poll of a machine that replies with the counters of its disks, in one of its boots. -/
structure Observation (perl : Perl) where
  zone : Zone
  boot : Nat
  disks : List (Field -> Nat)
  count : zone.diskCount = disks.length
  reports : exists session line perlScalar, zone.contact = .opened session ∧
    session.taken = some line ∧ perl.decode line = some perlScalar ∧
    forall di counters, disks[di]? = some counters ->
      perl.countersOf perlScalar di = some fun field => counters field

/-- No counter of a disk that both have is lower in the later one. -/
def Grows (wanted : Nat -> Bool) (earlier later : List (Field -> Nat)) : Prop :=
  forall di x y, wanted di = true -> earlier[di]? = some x -> later[di]? = some y -> x ≤ y

/-- Polls in the order of time; a machine that goes on running counts on. -/
structure IsHistory {perl : Perl} (polls : List (List (Observation perl))) : Prop where
  distinct : forall poll, poll ∈ polls -> (poll.map fun seen => seen.zone.uuid).Nodup
  clock : polls.Pairwise fun earlier later => forall a, a ∈ earlier -> forall b, b ∈ later ->
    a.zone.clock < b.zone.clock
  running : polls.Pairwise fun earlier later => forall a, a ∈ earlier -> forall b, b ∈ later ->
    a.zone.uuid = b.zone.uuid -> a.boot = b.boot -> Grows (fun _ => true) a.disks b.disks

/-- The script gets through the polls, and no rate is negative. -/
def IsSane (opts : Options) (x : Outcome State) : Prop :=
  exists s, x = .done s ∧
    forall row, row ∈ s.rows -> forall field, 0 ≤ rate opts row.data row.old field

/--
A machine that was booted again between two polls has counted further than it had at
the earlier one; and the clock does not read zero where the rates are per second.
-/
structure CatchesUp (opts : Options) {perl : Perl} (polls : List (List (Observation perl))) :
    Prop where
  counters : polls.Pairwise fun earlier later => forall a, a ∈ earlier -> forall b, b ∈ later ->
    opts.wantsZone a.zone.uuid = true -> a.zone.uuid = b.zone.uuid -> a.boot ≠ b.boot ->
    Grows opts.wantsDisk a.disks b.disks
  clock : opts.useInterval = true ∨ forall poll, poll ∈ polls -> forall a, a ∈ poll ->
    a.zone.IsShown opts -> a.zone.clock ≠ 0

/-!
## Samples
-/

/-- What is seen of a disk in a poll. -/
structure Sample where
  poll : Nat
  zone : String
  disk : Nat
  counters : Field -> Nat
  clock : Nat

def Sample.stats (sample : Sample) : Stats :=
  ⟨fun field => sample.counters field, sample.clock⟩

/-- Two samples of one disk. -/
def SameDisk (a b : Sample) : Prop :=
  a.zone = b.zone ∧ a.disk = b.disk

def visitSample (opts : Options) (sample : Sample) (s : State) : Outcome State :=
  (printStats opts ⟨sample.poll, sample.zone, sample.disk, sample.stats,
    s.remembered sample.zone sample.disk⟩ s).bind fun s =>
      .done (s.remember sample.zone sample.disk sample.stats)

def sampleOf (opts : Options) (poll : Nat) {perl : Perl} (seen : Observation perl) (di : Nat) :
    List Sample :=
  if opts.wantsDisk di then
    seen.disks[di]?.toList.map fun counters =>
      ⟨poll, seen.zone.uuid, di, counters, seen.zone.clock⟩
  else []

def samplesOf (opts : Options) (poll : Nat) {perl : Perl} (seen : Observation perl) :
    List Sample :=
  (List.range seen.disks.length).flatMap (sampleOf opts poll seen)

/-- The samples of all polls. -/
def allSamples (opts : Options) {perl : Perl} (polls : List (List (Observation perl))) :
    List Sample :=
  polls.zipIdx.flatMap fun poll =>
    (poll.1.filter fun seen => opts.wantsZone seen.zone.uuid).flatMap (samplesOf opts poll.2)

/-- The state without the line that was read last. -/
def State.forget (s : State) : State :=
  { s with jsonData := none }

variable {opts : Options} {perl : Perl}

theorem visitSample_forget (sample : Sample) (s : State) :
    (visitSample opts sample s).map State.forget = visitSample opts sample s.forget := by
  have hremembered : s.forget.remembered sample.zone sample.disk =
      s.remembered sample.zone sample.disk := rfl
  rw [visitSample, visitSample, hremembered, printStats, printStats]
  split
  · rfl
  · split <;> rfl

theorem visitZone_forget (poll : Nat) (seen : Observation perl) (s : State) :
    (visitZone perl opts poll seen.zone s).map State.forget =
      Outcome.each (visitSample opts) (samplesOf opts poll seen) s.forget := by
  rcases seen.reports with ⟨session, line, perlScalar, hcontact, htaken, hdecode, hcounters⟩
  have hdisk : forall di, di ∈ List.range seen.disks.length ->
      visitDisk opts poll seen.zone.uuid seen.zone.clock (perl.countersOf perlScalar) di =
        Outcome.each (visitSample opts) (sampleOf opts poll seen di) := by
    intro di hdi
    funext s
    rw [visitDisk, sampleOf]
    cases opts.wantsDisk di with
    | false => rfl
    | true =>
        have hlt := List.mem_range.mp hdi
        rw [hcounters di _ (List.getElem?_eq_getElem hlt), List.getElem?_eq_getElem hlt]
        exact (Outcome.bind_done_right _).symm
  rw [visitZone, hcontact]
  dsimp only
  rw [htaken]
  dsimp only
  rw [showDisks]
  simp only [Option.bind_some, hdecode]
  rw [visitDisks, seen.count, samplesOf, Outcome.each_flatMap, Outcome.each_congr hdisk]
  apply Outcome.each_map
  intro di _ s
  apply Outcome.each_map
  intro sample _ s
  exact visitSample_forget sample s

/-- The zones that are polled. -/
def zonesOf (polls : List (List (Observation perl))) : List (List Zone) :=
  polls.map fun poll => poll.map Observation.zone

/-- The script does with the polls what it would do with the samples in a row. -/
theorem kvmiostat_forget (polls : List (List (Observation perl))) :
    (kvmiostat perl opts (zonesOf polls)).map State.forget =
      Outcome.each (visitSample opts) (allSamples opts polls) State.initial := by
  rw [kvmiostat, zonesOf, List.zipIdx_map, Outcome.each_listMap, allSamples,
    Outcome.each_flatMap]
  apply Outcome.each_map
  intro poll _ s
  rw [visitPoll, Prod.map_fst, Prod.map_snd, List.filter_map, Outcome.each_listMap,
    Outcome.each_flatMap]
  apply Outcome.each_map
  intro seen _ s
  exact visitZone_forget poll.2 seen s

/-- No rate that has been printed is negative. -/
def RowsSane (opts : Options) (s : State) : Prop :=
  forall row, row ∈ s.rows -> forall field, 0 ≤ rate opts row.data row.old field

theorem isSane_forget (x : Outcome State) :
    IsSane opts (x.map State.forget) <-> IsSane opts x := by
  cases x with
  | done s =>
      constructor
      · intro h
        rcases h with ⟨s', hs', hrows⟩
        cases hs'
        exact ⟨s, rfl, hrows⟩
      · intro h
        rcases h with ⟨s', hs', hrows⟩
        cases hs'
        exact ⟨s.forget, rfl, hrows⟩
  | aborted s => constructor <;> intro h <;> rcases h with ⟨_, h, _⟩ <;> cases h
  | waiting => constructor <;> intro h <;> rcases h with ⟨_, h, _⟩ <;> cases h

/-!
## One sample after another
-/

theorem divisor_pos (opts : Options) (field : Field) : 0 < opts.divisor field := by
  have hbytes : 0 < opts.bytes.divisor := by
    cases opts.bytes <;> norm_num [BytesUnit.divisor]
  cases field with
  | rdOperations => exact one_pos
  | wrOperations => exact one_pos
  | rdBytes => exact hbytes
  | wrBytes => exact hbytes

/-- Where the clock goes on, a rate is as negative as the difference. -/
theorem rate_nonneg_iff {data old : Stats} (h : 0 < rateDivisor opts data old) (field : Field) :
    0 ≤ rate opts data old field <-> old.counters field ≤ data.counters field := by
  rw [rate, div_div, le_div_iff₀ (mul_pos h (divisor_pos opts field)), zero_mul, sub_nonneg]

theorem rate_of_isIdle {data old : Stats} (h : isIdle opts data old = true) (field : Field) :
    rate opts data old field = 0 := by
  simp only [isIdle, Bool.and_eq_true, decide_eq_true_eq] at h
  rcases h with ⟨⟨⟨hrd, hwr⟩, hrdBytes⟩, hwrBytes⟩
  cases field <;> assumption

/-- The sample can come behind what is remembered of its disk. -/
def Precedes (opts : Options) (old : Stats) (sample : Sample) : Prop :=
  (opts.useInterval = true ∨ old.timestamp ≠ sample.clock) ∧
    forall field, old.counters field ≤ sample.counters field

theorem rateDivisor_eq_zero_iff (sample : Sample) (old : Stats) :
    rateDivisor opts sample.stats old = 0 <->
      ¬ (opts.useInterval = true ∨ old.timestamp ≠ sample.clock) := by
  rw [rateDivisor, not_or, not_not]
  cases opts.useInterval with
  | true => simp
  | false =>
      simp only [Sample.stats]
      rw [if_neg Bool.false_ne_true, sub_eq_zero, Nat.cast_inj]
      exact ⟨fun h => ⟨Bool.false_ne_true, h.symm⟩, fun h => h.right.symm⟩

theorem rateDivisor_pos {sample : Sample} {old : Stats} (hpast : old.timestamp ≤ sample.clock)
    (h : opts.useInterval = true ∨ old.timestamp ≠ sample.clock) :
    0 < rateDivisor opts sample.stats old := by
  rw [rateDivisor]
  split
  · exact one_pos
  next hinterval =>
    have hlt := Nat.lt_of_le_of_ne hpast (h.resolve_left hinterval)
    exact sub_pos.mpr (Nat.cast_lt.mpr hlt)

/-- What is remembered after a sample. -/
theorem remembered_remember (s : State) (sample : Sample) (uuid : String) (di : Nat) :
    (s.remember sample.zone sample.disk sample.stats).remembered uuid di =
      if uuid = sample.zone ∧ di = sample.disk then sample.stats else s.remembered uuid di := by
  by_cases hzone : uuid = sample.zone
  · subst hzone
    by_cases hdisk : di = sample.disk
    · subst hdisk
      simp [State.remembered, State.remember]
    · simp [State.remembered, State.remember, hdisk]
  · simp [State.remembered, State.remember, hzone]

/-- A sample is shown, unless the clock stands still. -/
theorem visitSample_cases (sample : Sample) (s : State)
    (hpast : (s.remembered sample.zone sample.disk).timestamp ≤ sample.clock) :
    (¬ (opts.useInterval = true ∨
        (s.remembered sample.zone sample.disk).timestamp ≠ sample.clock) ∧
      visitSample opts sample s = .aborted s) ∨
    ((opts.useInterval = true ∨
        (s.remembered sample.zone sample.disk).timestamp ≠ sample.clock) ∧
      exists shown : State, visitSample opts sample s =
          .done (shown.remember sample.zone sample.disk sample.stats) ∧ shown.old = s.old ∧
        (RowsSane opts shown <-> RowsSane opts s ∧ forall field,
          (s.remembered sample.zone sample.disk).counters field ≤ sample.counters field)) := by
  generalize hold : s.remembered sample.zone sample.disk = old at hpast
  rw [visitSample, hold, printStats]
  by_cases hclock : opts.useInterval = true ∨ old.timestamp ≠ sample.clock
  · have hpos := rateDivisor_pos hpast hclock
    have hsane : (forall field, 0 ≤ rate opts sample.stats old field) <->
        forall field, old.counters field ≤ sample.counters field :=
      forall_congr' fun field => rate_nonneg_iff hpos field
    refine Or.inr ⟨hclock, ?_⟩
    rw [if_neg hpos.ne', ← hsane]
    split
    next hidle =>
      rw [Bool.and_eq_true] at hidle
      refine ⟨s, rfl, rfl, ?_⟩
      have hzero : forall field, 0 ≤ rate opts sample.stats old field :=
        fun field => (rate_of_isIdle hidle.right field).ge
      exact (and_iff_left hzero).symm
    next =>
      refine ⟨_, rfl, rfl, ?_⟩
      simp only [RowsSane, List.forall_mem_append, List.forall_mem_singleton]
  · exact Or.inl ⟨hclock, by rw [if_pos ((rateDivisor_eq_zero_iff sample old).mpr hclock)]; rfl⟩

/-- A later sample can come behind the new memory if it could behind the old one and grew. -/
theorem precedes_remembered_iff {s : State} {sample b : Sample}
    (hold : (s.remembered sample.zone sample.disk).timestamp ≤ sample.clock)
    (hgrows : forall field,
      (s.remembered sample.zone sample.disk).counters field ≤ sample.counters field)
    (horder : SameDisk sample b -> sample.clock < b.clock) :
    Precedes opts (if b.zone = sample.zone ∧ b.disk = sample.disk then sample.stats
        else s.remembered b.zone b.disk) b <->
      Precedes opts (s.remembered b.zone b.disk) b ∧
        (SameDisk sample b -> sample.counters ≤ b.counters) := by
  by_cases hdisk : b.zone = sample.zone ∧ b.disk = sample.disk
  · have hsame : SameDisk sample b := ⟨hdisk.left.symm, hdisk.right.symm⟩
    have hlater := horder hsame
    rw [if_pos hdisk, hdisk.left, hdisk.right]
    constructor
    · intro h
      have hcounters : sample.counters ≤ b.counters :=
        fun field => Nat.cast_le.mp (h.right field)
      refine ⟨⟨Or.inr (by omega), fun field => ?_⟩, fun _ => hcounters⟩
      exact (hgrows field).trans (h.right field)
    · intro h
      refine ⟨Or.inr (Nat.ne_of_lt hlater), fun field => ?_⟩
      exact Nat.cast_le.mpr (h.right hsame field)
  · have hother : ¬ SameDisk sample b := fun h => hdisk ⟨h.left.symm, h.right.symm⟩
    rw [if_neg hdisk]
    exact (and_iff_left fun h => absurd h hother).symm

/-- Samples are shown with no negative rate exactly when no disk falls behind itself. -/
theorem isSane_each_iff {samples : List Sample} {s : State}
    (horder : samples.Pairwise fun a b => SameDisk a b -> a.clock < b.clock)
    (hpast : forall b, b ∈ samples -> (s.remembered b.zone b.disk).timestamp ≤ b.clock) :
    IsSane opts (Outcome.each (visitSample opts) samples s) <->
      RowsSane opts s ∧
        (forall b, b ∈ samples -> Precedes opts (s.remembered b.zone b.disk) b) ∧
        samples.Pairwise fun a b => SameDisk a b -> a.counters ≤ b.counters := by
  induction samples generalizing s with
  | nil =>
      constructor
      · intro h
        rcases h with ⟨s', hs', hrows⟩
        cases hs'
        exact ⟨hrows, nofun, List.Pairwise.nil⟩
      · intro h
        exact ⟨s, rfl, h.left⟩
  | cons sample samples ih =>
      rcases List.pairwise_cons.mp horder with ⟨hfirst, hrest⟩
      have hold := hpast sample List.mem_cons_self
      rw [Outcome.each_cons, List.pairwise_cons, List.forall_mem_cons]
      rcases @visitSample_cases opts sample s hold with
        ⟨hstands, haborted⟩ | ⟨hclock, shown, hdone, hsame, hrows⟩
      · rw [haborted, Outcome.bind_aborted]
        constructor
        · intro h
          rcases h with ⟨_, hs', _⟩
          cases hs'
        · intro h
          exact absurd h.right.left.left.left hstands
      · rw [hdone, Outcome.bind_done]
        have hremembered : forall b : Sample,
            (shown.remember sample.zone sample.disk sample.stats).remembered b.zone b.disk =
              if b.zone = sample.zone ∧ b.disk = sample.disk then sample.stats
              else s.remembered b.zone b.disk := by
          intro b
          rw [remembered_remember]
          simp only [State.remembered, hsame]
        have hpast' : forall b, b ∈ samples ->
            ((shown.remember sample.zone sample.disk sample.stats).remembered
              b.zone b.disk).timestamp ≤ b.clock := by
          intro b hb
          rw [hremembered]
          split
          next hdisk => exact (hfirst b hb ⟨hdisk.left.symm, hdisk.right.symm⟩).le
          next => exact hpast b (List.mem_cons_of_mem _ hb)
        rw [ih hrest hpast']
        simp only [hremembered]
        constructor
        · intro h
          rcases h with ⟨hsane, hprecedes, hpairwise⟩
          rcases hrows.mp hsane with ⟨hbefore, hgrows⟩
          have hboth := fun b hb => (precedes_remembered_iff hold hgrows (hfirst b hb)).mp
            (hprecedes b hb)
          exact ⟨hbefore, ⟨⟨hclock, hgrows⟩, fun b hb => (hboth b hb).left⟩,
            fun b hb => (hboth b hb).right, hpairwise⟩
        · intro h
          rcases h with ⟨hbefore, ⟨⟨_, hgrows⟩, hprecedes⟩, hlater, hpairwise⟩
          refine ⟨hrows.mpr ⟨hbefore, hgrows⟩, fun b hb => ?_, hpairwise⟩
          exact (precedes_remembered_iff hold hgrows (hfirst b hb)).mpr
            ⟨hprecedes b hb, hlater b hb⟩

/-!
## The samples of a history
-/

theorem mem_samplesOf {poll : Nat} {seen : Observation perl} {sample : Sample} :
    sample ∈ samplesOf opts poll seen <->
      exists di counters, opts.wantsDisk di = true ∧ seen.disks[di]? = some counters ∧
        sample = ⟨poll, seen.zone.uuid, di, counters, seen.zone.clock⟩ := by
  rw [samplesOf, List.mem_flatMap]
  constructor
  · intro h
    rcases h with ⟨di, _, hmem⟩
    rw [sampleOf] at hmem
    split at hmem
    next hwanted =>
      rcases List.mem_map.mp hmem with ⟨counters, hcounters, rfl⟩
      exact ⟨di, counters, hwanted, Option.mem_toList.mp hcounters, rfl⟩
    next => cases hmem
  · intro h
    rcases h with ⟨di, counters, hwanted, hcounters, rfl⟩
    have hlt := (List.getElem?_eq_some_iff.mp hcounters).choose
    refine ⟨di, List.mem_range.mpr hlt, ?_⟩
    rw [sampleOf, if_pos hwanted, hcounters]
    exact List.mem_singleton_self _

/-- The samples of one poll are of different disks. -/
theorem pairwise_poll {R : Sample -> Sample -> Prop} {poll : List (Observation perl)} (k : Nat)
    (h : (poll.map fun seen => seen.zone.uuid).Nodup) :
    ((poll.filter fun seen => opts.wantsZone seen.zone.uuid).flatMap
      (samplesOf opts k)).Pairwise fun a b => SameDisk a b -> R a b := by
  rw [List.pairwise_flatMap]
  constructor
  · intro seen _
    rw [samplesOf, List.pairwise_flatMap]
    constructor
    · intro di _
      rw [sampleOf]
      split
      · cases seen.disks[di]? with
        | none => exact List.Pairwise.nil
        | some counters => exact List.pairwise_singleton _ _
      · exact List.Pairwise.nil
    · apply List.Pairwise.imp _ List.nodup_range
      intro i j hne a ha b hb hsame
      rw [sampleOf] at ha hb
      split at ha
      next =>
        split at hb
        next =>
          rcases List.mem_map.mp ha with ⟨_, _, rfl⟩
          rcases List.mem_map.mp hb with ⟨_, _, rfl⟩
          exact absurd hsame.right hne
        next => cases hb
      next => cases ha
  · rw [List.Nodup, List.pairwise_map] at h
    apply List.Pairwise.filter
    apply h.imp
    intro seen other hne a ha b hb hsame
    rcases mem_samplesOf.mp ha with ⟨_, _, _, _, rfl⟩
    rcases mem_samplesOf.mp hb with ⟨_, _, _, _, rfl⟩
    exact absurd hsame.left hne

/-- A relation between two samples of a disk, over the polls. -/
def Between (opts : Options) (Q : (Field -> Nat) -> Nat -> (Field -> Nat) -> Nat -> Prop)
    (earlier later : List (Observation perl)) : Prop :=
  forall a, a ∈ earlier -> forall b, b ∈ later -> opts.wantsZone a.zone.uuid = true ->
    a.zone.uuid = b.zone.uuid -> forall di x y, opts.wantsDisk di = true ->
      a.disks[di]? = some x -> b.disks[di]? = some y -> Q x a.zone.clock y b.zone.clock

theorem pairwise_allSamples (Q : (Field -> Nat) -> Nat -> (Field -> Nat) -> Nat -> Prop)
    {polls : List (List (Observation perl))} (h : IsHistory polls) :
    ((allSamples opts polls).Pairwise fun a b =>
        SameDisk a b -> Q a.counters a.clock b.counters b.clock) <->
      polls.Pairwise (Between opts Q) := by
  have hpolls : polls.zipIdx.Pairwise (fun p q => Between opts Q p.1 q.1) <->
      polls.Pairwise (Between opts Q) := by
    rw [← List.pairwise_map, List.zipIdx_map_fst]
  rw [allSamples, List.pairwise_flatMap, ← hpolls]
  have hwithin : forall p, p ∈ polls.zipIdx ->
      ((p.1.filter fun seen => opts.wantsZone seen.zone.uuid).flatMap
        (samplesOf opts p.2)).Pairwise fun a b =>
          SameDisk a b -> Q a.counters a.clock b.counters b.clock :=
    fun p hp => pairwise_poll p.2 (h.distinct p.1 (List.fst_mem_of_mem_zipIdx hp))
  rw [and_iff_right hwithin]
  apply List.Pairwise.iff
  intro p q
  constructor
  · intro hall a ha b hb hwanted hzone di x y hdisk hx hy
    have hwanted' : opts.wantsZone b.zone.uuid = true := hzone ▸ hwanted
    exact hall ⟨p.2, a.zone.uuid, di, x, a.zone.clock⟩
      (List.mem_flatMap.mpr ⟨a, List.mem_filter.mpr ⟨ha, hwanted⟩,
        mem_samplesOf.mpr ⟨di, x, hdisk, hx, rfl⟩⟩)
      ⟨q.2, b.zone.uuid, di, y, b.zone.clock⟩
      (List.mem_flatMap.mpr ⟨b, List.mem_filter.mpr ⟨hb, hwanted'⟩,
        mem_samplesOf.mpr ⟨di, y, hdisk, hy, rfl⟩⟩) ⟨hzone, rfl⟩
  · intro hbetween a ha b hb hsame
    rcases List.mem_flatMap.mp ha with ⟨seen, hseen, hsample⟩
    rcases List.mem_flatMap.mp hb with ⟨other, hother, hsample'⟩
    rcases List.mem_filter.mp hseen with ⟨hmem, hwanted⟩
    rcases mem_samplesOf.mp hsample with ⟨di, x, hdisk, hx, rfl⟩
    rcases mem_samplesOf.mp hsample' with ⟨dj, y, _, hy, rfl⟩
    rcases hsame with ⟨hzone, hdi⟩
    have heq : di = dj := hdi
    subst heq
    exact hbetween seen hmem other (List.mem_of_mem_filter hother) hwanted hzone di x y hdisk hx hy

theorem forall_clock_iff (R : Nat -> Prop) (polls : List (List (Observation perl))) :
    (forall sample, sample ∈ allSamples opts polls -> R sample.clock) <->
      forall poll, poll ∈ polls -> forall a, a ∈ poll -> a.zone.IsShown opts ->
        R a.zone.clock := by
  constructor
  · intro h poll hpoll a ha hshown
    rcases hshown with ⟨hwanted, di, hdi, hdisk⟩
    rw [a.count] at hdi
    rw [← List.zipIdx_map_fst 0 polls] at hpoll
    rcases List.mem_map.mp hpoll with ⟨p, hp, rfl⟩
    apply h ⟨p.2, a.zone.uuid, di, a.disks[di], a.zone.clock⟩
    exact List.mem_flatMap.mpr ⟨p, hp, List.mem_flatMap.mpr
      ⟨a, List.mem_filter.mpr ⟨ha, hwanted⟩,
        mem_samplesOf.mpr ⟨di, _, hdisk, List.getElem?_eq_getElem hdi, rfl⟩⟩⟩
  · intro h sample hsample
    rcases List.mem_flatMap.mp hsample with ⟨p, hp, hpoll⟩
    rcases List.mem_flatMap.mp hpoll with ⟨a, ha, hmem⟩
    rcases List.mem_filter.mp ha with ⟨hseen, hwanted⟩
    rcases mem_samplesOf.mp hmem with ⟨di, counters, hdisk, hcounters, rfl⟩
    refine h p.1 (List.fst_mem_of_mem_zipIdx hp) a hseen ⟨hwanted, di, ?_, hdisk⟩
    rw [a.count]
    exact (List.getElem?_eq_some_iff.mp hcounters).choose

/--
Over a history of polls, the script shows no negative rate and divides by nothing that
is zero exactly when the machines catch up with the boots before.
-/
theorem kvmiostat_isSane_iff (perl : Perl) (opts : Options)
    (polls : List (List (Observation perl))) (h : IsHistory polls) :
    IsSane opts (kvmiostat perl opts (zonesOf polls)) <-> CatchesUp opts polls := by
  have horder : (allSamples opts polls).Pairwise fun a b =>
      SameDisk a b -> a.clock < b.clock := by
    rw [pairwise_allSamples (fun _ a _ b => a < b) h]
    apply h.clock.imp
    intro earlier later hclock a ha b hb _ _ _ _ _ _ _ _
    exact hclock a ha b hb
  have hcounters : ((allSamples opts polls).Pairwise fun a b =>
      SameDisk a b -> a.counters ≤ b.counters) <-> polls.Pairwise fun earlier later =>
        forall a, a ∈ earlier -> forall b, b ∈ later -> opts.wantsZone a.zone.uuid = true ->
          a.zone.uuid = b.zone.uuid -> a.boot ≠ b.boot ->
          Grows opts.wantsDisk a.disks b.disks := by
    rw [pairwise_allSamples (fun x _ y _ => x ≤ y) h]
    constructor
    · intro hall
      apply hall.imp
      intro earlier later hbetween a ha b hb hwanted hzone _
      exact hbetween a ha b hb hwanted hzone
    · intro hboots
      apply (h.running.and hboots).imp
      intro earlier later hboth a ha b hb hwanted hzone di x y hdisk
      by_cases hboot : a.boot = b.boot
      · exact hboth.left a ha b hb hzone hboot di x y rfl
      · exact hboth.right a ha b hb hwanted hzone hboot di x y hdisk
  have hclock : (forall b, b ∈ allSamples opts polls ->
        Precedes opts (State.initial.remembered b.zone b.disk) b) <->
      (opts.useInterval = true ∨ forall poll, poll ∈ polls -> forall a, a ∈ poll ->
        a.zone.IsShown opts -> a.zone.clock ≠ 0) := by
    have hprecedes : forall b : Sample,
        Precedes opts (State.initial.remembered b.zone b.disk) b <->
          (opts.useInterval = true ∨ b.clock ≠ 0) :=
      fun b => ⟨fun hb => hb.left.imp_right Ne.symm,
        fun hb => ⟨hb.imp_right Ne.symm, fun field => Nat.cast_nonneg _⟩⟩
    simp only [hprecedes]
    rw [forall_clock_iff fun clock => opts.useInterval = true ∨ clock ≠ 0]
    by_cases hinterval : opts.useInterval = true
    · simp [hinterval]
    · simp [hinterval]
  have hpast : forall b, b ∈ allSamples opts polls ->
      (State.initial.remembered b.zone b.disk).timestamp ≤ b.clock := fun b _ => Nat.zero_le _
  rw [← isSane_forget, kvmiostat_forget, isSane_each_iff horder hpast, hclock, hcounters]
  constructor
  · intro hall
    exact ⟨hall.right.right, hall.right.left⟩
  · intro hcatches
    exact ⟨nofun, hcatches.clock, hcatches.counters⟩

/-!
## A machine that is booted again
-/

/-- The reply of a machine with one disk. -/
def reply (operations : List Char) : List Char :=
  "\x7b\"return\": [\x7b\"stats\": \x7b\"rd_operations\": ".toList ++ operations ++
    "\x7d\x7d]\x7d\n".toList

/-- What is to be read from the reply. -/
def replied (operations : List Char) : Json :=
  .obj [("return".toList,
    .arr [.obj [("stats".toList, .obj [("rd_operations".toList, .num operations)])]])]

/-- What two replies decode to; the counters are whole numbers. -/
def decodeTwo (text : List Char) : Option Json :=
  if text = reply ['7'] then some (replied ['7'])
  else if text = reply ['2'] then some (replied ['2'])
  else none

def twoReplies : Perl where
  decode := decodeTwo
  number := wholeNumbers.number

theorem decodeTwo_seven : decodeTwo (reply ['7']) = some (replied ['7']) := by
  rw [decodeTwo, if_pos rfl]

theorem decodeTwo_two : decodeTwo (reply ['2']) = some (replied ['2']) := by
  rw [decodeTwo, if_neg (by decide), if_pos rfl]

/-- A machine with one disk, from which it has only read. -/
def reading (boot clock : Nat) (operations : List Char)
    (htaken : passesOver (reply operations) = false)
    (hdecode : twoReplies.decode (reply operations) = some (replied operations)) :
    Observation twoReplies where
  zone := ⟨"a", 1, clock, .opened ⟨[], some (reply operations), [], true⟩⟩
  boot := boot
  disks := [fun field => if field = .rdOperations then BashArith.digitsValue 10 operations else 0]
  count := rfl
  reports := by
    refine ⟨_, reply operations, replied operations, rfl, ?_, hdecode, ?_⟩
    · simp [Session.taken, Session.lines, htaken]
    · intro di counters hcounters
      cases di with
      | zero =>
          cases hcounters
          apply congrArg some
          funext field
          cases field <;> rfl
      | succ di => cases hcounters

def seven : Observation twoReplies :=
  reading 0 60 ['7'] (by decide +kernel) decodeTwo_seven

/-- The same machine after it was booted again. -/
def two : Observation twoReplies :=
  reading 1 120 ['2'] (by decide +kernel) decodeTwo_two

theorem isHistory_rebooted : IsHistory [[seven], [two]] := by
  constructor
  · intro poll hpoll
    rcases List.mem_cons.mp hpoll with rfl | hpoll
    · exact List.pairwise_singleton _ _
    · rw [List.mem_singleton.mp hpoll]
      exact List.pairwise_singleton _ _
  · rw [List.pairwise_pair]
    intro a ha b hb
    rw [List.mem_singleton.mp ha, List.mem_singleton.mp hb]
    decide
  · rw [List.pairwise_pair]
    intro a ha b hb _ hboot
    rw [List.mem_singleton.mp ha, List.mem_singleton.mp hb] at hboot
    cases hboot

theorem kvmiostat_isSane_iff_rebooted :
    IsSane plainOptions (kvmiostat twoReplies plainOptions (zonesOf [[seven], [two]])) <->
      CatchesUp plainOptions [[seven], [two]] :=
  kvmiostat_isSane_iff twoReplies plainOptions [[seven], [two]] isHistory_rebooted

/-- The machine has counted to less in its new boot, and the rate of reads is negative. -/
theorem reboot_is_negative : ¬ forall (perl : Perl) opts (polls : List (List (Observation perl))),
    IsHistory polls -> IsSane opts (kvmiostat perl opts (zonesOf polls)) := by
  intro h
  have hsane := h twoReplies plainOptions [[seven], [two]] isHistory_rebooted
  rw [← isSane_forget, kvmiostat_forget] at hsane
  rcases hsane with ⟨s, hs, hrows⟩
  have hrun : (Outcome.each (visitSample plainOptions)
      (allSamples plainOptions [[seven], [two]]) State.initial).left.any
      (fun s => s.rows.any fun row =>
        rate plainOptions row.data row.old .rdOperations < 0) = true := by decide +kernel
  rw [hs, Outcome.left, Option.any_some] at hrun
  rcases List.any_eq_true.mp hrun with ⟨row, hrow, hnegative⟩
  exact absurd (hrows row hrow .rdOperations) (not_le.mpr (of_decide_eq_true hnegative))

end KvmIostat
end Zabbix
end EsdcFactory
