import TokenRouter.ForStd.Run
import TokenRouter.Model.SupplyCapacity

/-!
# Telemetry in the order of its arrival

A report is written over the capacity of its period whatever was observed before: the capacity
shows the report that arrived last.

## Key results

- `recordSupplyCapacityTelemetry_spec`: what one report does
- `telemetry_last_arrival`: the capacities after any sequence of reports
- `late_report_overwrites`: an older report that arrives late stands
-/

namespace TokenRouter

/-- The columns of a capacity that a report fills. -/
structure ReportedCapacity where
  capacityTokens : Int
  usedTokens : Int
  headroomTokens : Int
  utilizationRate : ℚ
  gpuUtilizationRate : ℚ
  qualityScore : ℚ
  unitCostQuota : ℚ
  sourceType : String
  sourceRef : String
  observedAt : Int
  deriving DecidableEq

def SupplyCapacity.reported (c : SupplyCapacity) : ReportedCapacity :=
  { capacityTokens := c.capacityTokens, usedTokens := c.usedTokens
    headroomTokens := c.headroomTokens, utilizationRate := c.utilizationRate
    gpuUtilizationRate := c.gpuUtilizationRate, qualityScore := c.qualityScore
    unitCostQuota := c.unitCostQuota, sourceType := c.telemetrySourceType
    sourceRef := c.telemetrySourceRef, observedAt := c.telemetryObservedAt }

def SupplyCapacityTelemetry.reported (t : SupplyCapacityTelemetry) : ReportedCapacity :=
  { capacityTokens := t.capacityTokens, usedTokens := t.usedTokens
    headroomTokens := t.capacityTokens - t.usedTokens
    utilizationRate := tokenRate t.usedTokens t.capacityTokens
    gpuUtilizationRate := t.gpuUtilizationRate, qualityScore := t.qualityScore
    unitCostQuota := t.unitCostQuota, sourceType := t.sourceType
    sourceRef := t.sourceRef, observedAt := t.observedAt }

/-- A telemetry as `normalize` leaves it. -/
structure SupplyCapacityTelemetry.Normal (t : SupplyCapacityTelemetry) : Prop where
  supplyNode : trimSpace t.supplyNode = t.supplyNode
  modelName : trimSpace t.modelName = t.modelName
  sourceType : trimSpace t.sourceType = t.sourceType
  sourceRef : trimSpace t.sourceRef = t.sourceRef
  notes : trimSpace t.notes = t.notes

theorem SupplyCapacityTelemetry.normalize_normal (t : SupplyCapacityTelemetry) :
    t.normalize.Normal := by
  refine ⟨trimSpace_trimSpace _, trimSpace_trimSpace _, ?_, trimSpace_trimSpace _,
    trimSpace_trimSpace _⟩
  show trimSpace (normalizeSupplyCapacityTelemetrySource t.sourceType) =
    normalizeSupplyCapacityTelemetrySource t.sourceType
  unfold normalizeSupplyCapacityTelemetrySource
  split
  · decide
  · decide
  · decide

/-! ## One report -/

/-- The capacity that a report leaves of one it finds. -/
def reportedOver (t : SupplyCapacityTelemetry) (c : SupplyCapacity) : SupplyCapacity :=
  writeTelemetryColumns (capacityFromTelemetry t (some c)) c

variable {t : SupplyCapacityTelemetry} {c : SupplyCapacity}

@[simp] theorem reportedOver_id (t : SupplyCapacityTelemetry) (c : SupplyCapacity) :
    (reportedOver t c).id = c.id := rfl

@[simp] theorem reportedOver_period (t : SupplyCapacityTelemetry) (c : SupplyCapacity) :
    (reportedOver t c).period = c.period := rfl

/-- The notes of a capacity stay unless they are blank. -/
def notesAfter (t : SupplyCapacityTelemetry) (notes : String) : String :=
  if trimSpace notes = "" ∧ t.notes ≠ "" then t.notes else notes

theorem notesAfter_notesAfter (ht : t.Normal) (notes : String) :
    notesAfter t (notesAfter t notes) = notesAfter t notes := by
  unfold notesAfter
  by_cases h : trimSpace notes = "" ∧ t.notes ≠ ""
  · rw [if_pos h, if_neg]
    rintro ⟨hblank, hne⟩
    rw [ht.notes] at hblank
    exact hne hblank
  · rw [if_neg h, if_neg h]

/-- The columns that a report assigns. -/
def assignReport (t : SupplyCapacityTelemetry) (c : SupplyCapacity) : SupplyCapacity :=
  { c with
    capacityTokens := t.capacityTokens
    usedTokens := t.usedTokens
    headroomTokens := t.capacityTokens - t.usedTokens
    utilizationRate := tokenRate t.usedTokens t.capacityTokens
    gpuUtilizationRate := t.gpuUtilizationRate
    qualityScore := t.qualityScore
    unitCostQuota := t.unitCostQuota
    telemetrySourceType := t.sourceType
    telemetrySourceRef := t.sourceRef
    telemetryObservedAt := t.observedAt
    notes := notesAfter t c.notes }

theorem reportedOver_eq (ht : t.Normal) (c : SupplyCapacity) :
    reportedOver t c = assignReport t c := by
  unfold reportedOver writeTelemetryColumns capacityFromTelemetry SupplyCapacity.normalize
  simp only [Option.getD_some, ht.sourceType, ht.sourceRef]
  rfl

theorem assignReport_reported (t : SupplyCapacityTelemetry) (c : SupplyCapacity) :
    (assignReport t c).reported = t.reported := rfl

theorem assignReport_assignReport (ht : t.Normal) (c : SupplyCapacity) :
    assignReport t (assignReport t c) = assignReport t c := by
  have hnotes := notesAfter_notesAfter ht c.notes
  unfold assignReport
  simp only [hnotes]

/-- A capacity that nothing but its period is known of. -/
def blankCapacity (t : SupplyCapacityTelemetry) (id : Nat) : SupplyCapacity :=
  { id, supplierId := t.supplierId, supplyNode := t.supplyNode, modelName := t.modelName
    periodStart := t.periodStart, periodEnd := t.periodEnd, status := 1 }

/-- A report creates a capacity as if it found a blank one. -/
theorem capacityFromTelemetry_none (ht : t.Normal) (id : Nat) :
    { capacityFromTelemetry t none with id } = assignReport t (blankCapacity t id) := by
  unfold capacityFromTelemetry SupplyCapacity.normalize
  simp only [Option.getD_none, ht.sourceType, ht.sourceRef, ht.supplyNode, ht.modelName]
  rfl

/-! ## The tables -/

/-- One capacity for each period, with the id that the database gave it. -/
structure CapacitiesWF (capacities : SupplyCapacities) : Prop where
  unique : capacities.UniqueOn SupplyCapacity.period
  numbered : ∀ c ∈ capacities.rows, c.id ≠ 0

/-- What `upsertSupplyCapacityFromTelemetry` does to a table: `written` takes the place of the
    capacity of its period. -/
structure CapacityWritten (t : SupplyCapacityTelemetry) (capacities : SupplyCapacities)
    (result : SupplyCapacities × Nat) (written : SupplyCapacity) : Prop where
  id : written.id = result.2
  numbered : written.id ≠ 0
  period : written.period = t.period
  assigned : ∃ c, written = assignReport t c ∧
    ∀ x ∈ capacities.rows, x.period = t.period → x = c
  mem : ∀ x, x ∈ result.1.rows ↔ (x ∈ capacities.rows ∧ x.period ≠ t.period) ∨ x = written
  others : ∀ x ∈ capacities.rows, x.period ≠ t.period → x.id ≠ written.id
  same : written ∈ capacities.rows → result.1 = capacities

variable {capacities : SupplyCapacities}

theorem upsertSupplyCapacityFromTelemetry_spec (ht : t.Normal) (hwf : CapacitiesWF capacities) :
    ∃ written, CapacityWritten t capacities (upsertSupplyCapacityFromTelemetry capacities t)
      written := by
  unfold upsertSupplyCapacityFromTelemetry
  cases hfind : capacities.rows.find? fun c => c.period = t.period with
  | some c =>
    have hmem : c ∈ capacities.rows := List.mem_of_find?_eq_some hfind
    have hperiod : c.period = t.period := by simpa using List.find?_some hfind
    have hid : c.id ≠ 0 := hwf.numbered c hmem
    have hself : capacities.find? c.id = some c := Table.find?_of_mem hmem
    have hrows : applyCapacity (.telemetry t (some c)) capacities =
        capacities.set (assignReport t c) := by
      show (if c.id = 0 then _ else capacities.update c.id _) = _
      rw [if_neg hid, Table.update, hself]
      exact congrArg capacities.set (reportedOver_eq ht c)
    refine ⟨assignReport t c, (if_neg hid).symm, hid, hperiod, ⟨c, rfl, ?_⟩, ?_, ?_, ?_⟩
    · intro x hx hxperiod
      exact hwf.unique x hx c hmem (hxperiod.trans hperiod.symm)
    · intro x
      dsimp only
      rw [hrows]
      constructor
      · intro hx
        rcases Table.mem_set hx with rfl | ⟨hold, hne⟩
        · exact .inr rfl
        · refine .inl ⟨hold, fun hxperiod => hne ?_⟩
          rw [hwf.unique x hold c hmem (hxperiod.trans hperiod.symm)]
          rfl
      · rintro (⟨hold, hne⟩ | rfl)
        · refine Table.mem_set_of_ne hold fun hkey => hne ?_
          rw [capacities.eq_of_key_eq hold hmem hkey]
          exact hperiod
        · exact Table.mem_set_self hself
    · intro x hx hne hkey
      refine hne ?_
      rw [capacities.eq_of_key_eq hx hmem hkey]
      exact hperiod
    · intro hwritten
      dsimp only
      rw [hrows]
      exact Table.set_of_find? (Table.find?_of_mem hwritten)
  | none =>
    have hnone : ∀ x ∈ capacities.rows, x.period ≠ t.period := by
      intro x hx
      simpa using List.find?_eq_none.mp hfind x hx
    have hrows : applyCapacity (.telemetry t none) capacities =
        capacities.insert (assignReport t (blankCapacity t capacities.nextId)) := by
      show createCapacity capacities _ = _
      rw [← capacityFromTelemetry_none ht]
      rfl
    have hfresh : capacities.find? (assignReport t (blankCapacity t capacities.nextId)).id = none :=
      capacities.nextId_fresh
    refine ⟨assignReport t (blankCapacity t capacities.nextId), rfl, ?_, rfl, ⟨_, rfl, ?_⟩, ?_, ?_,
      fun hwritten => absurd rfl (hnone _ hwritten)⟩
    · show capacities.nextId ≠ 0
      unfold Table.nextId
      omega
    · intro x hx hxperiod
      exact absurd hxperiod (hnone x hx)
    · intro x
      dsimp only
      rw [hrows, Table.mem_insert hfresh]
      constructor
      · rintro (hold | hnew)
        · exact .inl ⟨hold, hnone x hold⟩
        · exact .inr hnew
      · rintro (⟨hold, -⟩ | hnew)
        · exact .inl hold
        · exact .inr hnew
    · intro x hx _
      exact Nat.ne_of_lt (Table.lt_nextId hx)

theorem CapacityWritten.wf {result : SupplyCapacities × Nat} {written : SupplyCapacity}
    (h : CapacityWritten t capacities result written) (hwf : CapacitiesWF capacities) :
    CapacitiesWF result.1 := by
  constructor
  · intro a ha b hb hab
    rcases (h.mem a).mp ha with ⟨ha, hna⟩ | rfl
    · rcases (h.mem b).mp hb with ⟨hb, -⟩ | rfl
      · exact hwf.unique a ha b hb hab
      · exact absurd (hab.trans h.period) hna
    · rcases (h.mem b).mp hb with ⟨-, hnb⟩ | rfl
      · exact absurd (hab.symm.trans h.period) hnb
      · rfl
  · intro c hc
    rcases (h.mem c).mp hc with ⟨hold, -⟩ | rfl
    · exact hwf.numbered c hold
    · exact h.numbered

/-! ## One report -/

/-- The checks of a report. -/
def acceptsTelemetry (suppliers : Suppliers) (input : SupplyCapacityTelemetry) : Bool :=
  accepted input.normalize.validate && (suppliers.first input.normalize.supplierId).isSome

/-- The database with one capacity for each period and one telemetry for each key. -/
structure TelemetryWF (db : TelemetryDB) : Prop where
  capacities : CapacitiesWF db.capacities
  telemetries : db.telemetries.UniqueOn (·.telemetryKey)

/-- The report that a period shows. -/
structure Shows (db : TelemetryDB) (t : SupplyCapacityTelemetry) : Prop where
  capacity : ∃ c ∈ db.capacities.rows, c.period = t.period ∧ c.reported = t.reported ∧
    assignReport t c = c ∧
    ∃ r ∈ db.telemetries.rows, r.telemetryKey = t.key ∧ db.lastTelemetryId c.id = r.id

theorem telemetryRow_keyColumn :
    Table.KeyColumn (fun r : SupplyCapacityTelemetryRow => r.id) (·.telemetryKey)
      SupplyCapacityTelemetryRow.withId :=
  ⟨fun _ _ => rfl, fun _ _ => rfl, fun _ _ _ => rfl⟩

variable {db db' : TelemetryDB} {input : SupplyCapacityTelemetry} {recordedBy : Int}

/-- A report that is not accepted is an error. -/
theorem recordSupplyCapacityTelemetry_error (h : acceptsTelemetry db.suppliers input = false)
    (recordedBy : Int) :
    ∃ e, recordSupplyCapacityTelemetry db input recordedBy = .error e := by
  unfold acceptsTelemetry at h
  unfold recordSupplyCapacityTelemetry
  dsimp only
  cases hvalid : input.normalize.validate with
  | error e => exact ⟨e, rfl⟩
  | ok _ =>
    cases hfirst : db.suppliers.first input.normalize.supplierId with
    | none => exact ⟨"record not found", rfl⟩
    | some supplier =>
      rw [hvalid, hfirst] at h
      exact Bool.noConfusion h

/-- An accepted report is what its period shows then; other periods show what they did. -/
structure Recorded (db : TelemetryDB) (t : SupplyCapacityTelemetry) (db' : TelemetryDB) :
    Prop where
  suppliers : db'.suppliers = db.suppliers
  wf : TelemetryWF db'
  shows : Shows db' t
  others : ∀ t', t'.period ≠ t.period → Shows db t' → Shows db' t'
  again : Shows db t → db'.capacities = db.capacities ∧ db'.lastTelemetryId = db.lastTelemetryId

/-- An upsert keeps the ids of the telemetries that are there. -/
theorem exists_mem_upsertRow_telemetry {telemetries : Table SupplyCapacityTelemetryRow (·.id)}
    (hunique : telemetries.UniqueOn (·.telemetryKey)) (row : SupplyCapacityTelemetryRow)
    {r : SupplyCapacityTelemetryRow} (hr : r ∈ telemetries.rows) :
    ∃ r' ∈ (telemetries.upsertRow (·.telemetryKey) SupplyCapacityTelemetryRow.withId row).rows,
      r'.telemetryKey = r.telemetryKey ∧ r'.id = r.id := by
  by_cases hkey : r.telemetryKey = row.telemetryKey
  · exact ⟨row.withId r.id, (Table.mem_upsertRow telemetryRow_keyColumn hunique).mpr
      (.inr (.inl ⟨r, hr, hkey, rfl⟩)), hkey.symm, rfl⟩
  · exact ⟨r, (Table.mem_upsertRow telemetryRow_keyColumn hunique).mpr (.inl ⟨hr, hkey⟩), rfl, rfl⟩

/-- What an accepted report does. -/
theorem recordSupplyCapacityTelemetry_spec (hwf : TelemetryWF db)
    (h : acceptsTelemetry db.suppliers input = true) (recordedBy : Int) :
    ∃ db', recordSupplyCapacityTelemetry db input recordedBy = .ok db' ∧
      Recorded db input.normalize db' := by
  obtain ⟨hvalid, hfirst⟩ := Bool.and_eq_true_iff.mp h
  have ht := input.normalize_normal
  unfold recordSupplyCapacityTelemetry
  dsimp only
  generalize input.normalize = t at hvalid hfirst ht ⊢
  obtain ⟨supplier, hsupplier⟩ := Option.isSome_iff_exists.mp hfirst
  obtain ⟨written, hwritten⟩ := upsertSupplyCapacityFromTelemetry_spec ht hwf.capacities
  generalize upsertSupplyCapacityFromTelemetry db.capacities t = result at hwritten ⊢
  obtain ⟨capacities, capacityID⟩ := result
  have hunique := hwf.telemetries.upsertRow telemetryRow_keyColumn
    (telemetryRow t capacityID recordedBy)
  have hkept := fun r => exists_mem_upsertRow_telemetry hwf.telemetries
    (telemetryRow t capacityID recordedBy) (r := r)
  -- the telemetry is found under its key
  have hfound : ∃ r, (db.telemetries.upsertRow (·.telemetryKey) SupplyCapacityTelemetryRow.withId
      (telemetryRow t capacityID recordedBy)).rows.find? (fun r => r.telemetryKey = t.key) =
      some r := by
    rw [← Option.isSome_iff_exists, List.find?_isSome]
    by_cases hex : ∃ r ∈ db.telemetries.rows, r.telemetryKey = t.key
    · obtain ⟨r, hr, hkey⟩ := hex
      obtain ⟨r', hr', hkey', -⟩ := hkept r hr
      exact ⟨r', hr', decide_eq_true (hkey'.trans hkey)⟩
    · refine ⟨_, (Table.mem_upsertRow telemetryRow_keyColumn hwf.telemetries).mpr
        (.inr (.inr ⟨fun r hr hkey => hex ⟨r, hr, hkey⟩, rfl⟩)), ?_⟩
      exact decide_eq_true rfl
  generalize db.telemetries.upsertRow (·.telemetryKey) SupplyCapacityTelemetryRow.withId
    (telemetryRow t capacityID recordedBy) = telemetries at hunique hkept hfound ⊢
  obtain ⟨r, hr⟩ := hfound
  have hmem : r ∈ telemetries.rows := List.mem_of_find?_eq_some hr
  have hkey : r.telemetryKey = t.key := by simpa using List.find?_some hr
  have hid : capacityID = written.id := hwritten.id.symm
  refine ⟨{ suppliers := db.suppliers, capacities, telemetries
            lastTelemetryId := Function.update db.lastTelemetryId capacityID r.id }, ?_, ?_⟩
  · cases hvalidate : t.validate with
    | error e =>
      rw [hvalidate] at hvalid
      exact Bool.noConfusion hvalid
    | ok _ =>
      rw [hsupplier]
      dsimp only
      rw [hr]
      rfl
  · obtain ⟨c, hassigned, honly⟩ := hwritten.assigned
    refine ⟨rfl, ⟨hwritten.wf hwf.capacities, hunique⟩, ⟨written, ?_, hwritten.period, ?_, ?_, r,
      hmem, hkey, ?_⟩, ?_, ?_⟩
    · exact (hwritten.mem written).mpr (.inr rfl)
    · rw [hassigned, assignReport_reported]
    · rw [hassigned, assignReport_assignReport ht]
    · show Function.update db.lastTelemetryId capacityID r.id written.id = r.id
      rw [hid, Function.update_self]
    · rintro t' hne ⟨c', hc', hperiod, hreported, hsame, r', hr', hkey', hlast⟩
      have hother : c'.period ≠ t.period := fun heq => hne (hperiod.symm.trans heq)
      obtain ⟨r'', hr'', hkey'', hid''⟩ := hkept r' hr'
      refine ⟨c', (hwritten.mem c').mpr (.inl ⟨hc', hother⟩), hperiod, hreported, hsame, r'', hr'',
        hkey''.trans hkey', ?_⟩
      show Function.update db.lastTelemetryId capacityID r.id c'.id = r''.id
      rw [hid, Function.update_of_ne (hwritten.others c' hc' hother), hlast, hid'']
    · rintro ⟨c', hc', hperiod, -, hsame, r', hr', hkey', hlast⟩
      have heq : written = c' := by
        rw [hassigned, ← honly c' hc' hperiod, hsame]
      have hrid : r.id = r'.id := by
        obtain ⟨r'', hr'', hkey'', hid''⟩ := hkept r' hr'
        have hsameRow : r = r'' :=
          hunique r hmem r'' hr'' (hkey.trans (hkey''.trans hkey').symm)
        rw [hsameRow, hid'']
      refine ⟨hwritten.same (heq ▸ hc'), ?_⟩
      show Function.update db.lastTelemetryId capacityID r.id = db.lastTelemetryId
      rw [hid, heq, hrid, ← hlast, Function.update_eq_self]

/-! ## Sequences of reports -/

/-- One arrival; an error leaves the database as it is. -/
def receive (db : TelemetryDB) (arrival : SupplyCapacityTelemetry × Int) : TelemetryDB :=
  match recordSupplyCapacityTelemetry db arrival.1 arrival.2 with
  | .ok db' => db'
  | .error _ => db

/-- The reports of a period that are accepted, in the order of their arrival. -/
def acceptedReports (suppliers : Suppliers) (period : CapacityPeriod)
    (arrivals : List (SupplyCapacityTelemetry × Int)) : List SupplyCapacityTelemetry :=
  ((arrivals.filter fun a => acceptsTelemetry suppliers a.1).map fun a => a.1.normalize).filter
    fun t => t.period = period

theorem acceptedReports_concat (suppliers : Suppliers) (period : CapacityPeriod)
    (arrivals : List (SupplyCapacityTelemetry × Int)) (a : SupplyCapacityTelemetry × Int) :
    acceptedReports suppliers period (arrivals ++ [a]) = acceptedReports suppliers period arrivals ++
      if acceptsTelemetry suppliers a.1 ∧ a.1.normalize.period = period then [a.1.normalize]
      else [] := by
  unfold acceptedReports
  rw [List.filter_append, List.map_append, List.filter_append]
  congr 1
  by_cases haccepts : acceptsTelemetry suppliers a.1 = true
  · by_cases hperiod : a.1.normalize.period = period
    · simp [haccepts, hperiod]
    · simp [haccepts, hperiod]
  · simp [haccepts]

/-- After any arrivals every period shows the accepted report that arrived last. -/
theorem shows_of_arrivals (hwf : TelemetryWF db)
    (arrivals : List (SupplyCapacityTelemetry × Int)) :
    (Run.run receive db arrivals).suppliers = db.suppliers ∧
      TelemetryWF (Run.run receive db arrivals) ∧
      ∀ period, ∀ t ∈ (acceptedReports db.suppliers period arrivals).getLast?,
        t.period = period ∧ Shows (Run.run receive db arrivals) t := by
  induction arrivals using List.reverseRecOn with
  | nil => exact ⟨rfl, hwf, fun period t ht => nomatch ht⟩
  | append_singleton arrivals a ih =>
    obtain ⟨hsuppliers, hwf', hshows⟩ := ih
    rw [Run.run_append]
    generalize Run.run receive db arrivals = s at hsuppliers hwf' hshows ⊢
    show (receive s a).suppliers = _ ∧ TelemetryWF (receive s a) ∧ _
    by_cases haccepts : acceptsTelemetry s.suppliers a.1 = true
    · obtain ⟨s', hs', hrecorded⟩ := recordSupplyCapacityTelemetry_spec hwf' haccepts a.2
      have hreceive : receive s a = s' := by
        unfold receive
        rw [hs']
      rw [hsuppliers] at haccepts
      rw [hreceive]
      refine ⟨hrecorded.suppliers.trans hsuppliers, hrecorded.wf, fun period t ht => ?_⟩
      show t.period = period ∧ Shows (receive s a) t
      rw [hreceive]
      rw [acceptedReports_concat] at ht
      by_cases hperiod : a.1.normalize.period = period
      · rw [if_pos ⟨haccepts, hperiod⟩, List.getLast?_concat] at ht
        cases ht
        exact ⟨hperiod, hrecorded.shows⟩
      · rw [if_neg (fun hboth => hperiod hboth.2), List.append_nil] at ht
        obtain ⟨htperiod, hold⟩ := hshows period t ht
        exact ⟨htperiod, hrecorded.others t (fun heq => hperiod (heq.symm.trans htperiod)) hold⟩
    · obtain ⟨e, he⟩ := recordSupplyCapacityTelemetry_error
        (Bool.eq_false_iff.mpr haccepts) a.2
      have hreceive : receive s a = s := by
        unfold receive
        rw [he]
      rw [hsuppliers] at haccepts
      rw [hreceive]
      refine ⟨hsuppliers, hwf', fun period t ht => ?_⟩
      show t.period = period ∧ Shows (receive s a) t
      rw [hreceive]
      rw [acceptedReports_concat, if_neg (fun hboth => haccepts hboth.1), List.append_nil] at ht
      exact hshows period t ht

/-- Whatever the order in which reports arrive, a period has exactly one capacity, with the
    values of the accepted report that arrived last, and this report changes nothing when it
    is replayed. -/
theorem telemetry_last_arrival (hwf : TelemetryWF db)
    (arrivals : List (SupplyCapacityTelemetry × Int)) (period : CapacityPeriod)
    {t : SupplyCapacityTelemetry}
    (ht : t ∈ (acceptedReports db.suppliers period arrivals).getLast?) :
    (∃! c, c ∈ (Run.run receive db arrivals).capacities.rows ∧ c.period = period) ∧
      (∀ c ∈ (Run.run receive db arrivals).capacities.rows, c.period = period →
        c.reported = t.reported) ∧
      ∀ replay : SupplyCapacityTelemetry × Int, replay.1.normalize = t →
        (receive (Run.run receive db arrivals) replay).capacities =
            (Run.run receive db arrivals).capacities ∧
          (receive (Run.run receive db arrivals) replay).lastTelemetryId =
            (Run.run receive db arrivals).lastTelemetryId := by
  obtain ⟨hsuppliers, hwf', hshows⟩ := shows_of_arrivals hwf arrivals
  obtain ⟨htperiod, hshow⟩ := hshows period t ht
  generalize Run.run receive db arrivals = s at hsuppliers hwf' hshow ⊢
  obtain ⟨c, hc, hperiod, hreported, -⟩ := hshow.capacity
  have honly : ∀ c' ∈ s.capacities.rows, c'.period = period → c' = c :=
    fun c' hc' hperiod' =>
      hwf'.capacities.unique c' hc' c hc (hperiod'.trans (hperiod.trans htperiod).symm)
  refine ⟨⟨c, ⟨hc, hperiod.trans htperiod⟩, fun c' hc' => honly c' hc'.1 hc'.2⟩, ?_, ?_⟩
  · intro c' hc' hperiod'
    rw [honly c' hc' hperiod', hreported]
  · rintro ⟨input, recordedBy⟩ rfl
    cases haccepts : acceptsTelemetry s.suppliers input with
    | false =>
      obtain ⟨e, he⟩ := recordSupplyCapacityTelemetry_error haccepts recordedBy
      unfold receive
      rw [he]
      exact ⟨rfl, rfl⟩
    | true =>
      obtain ⟨s', hs', hrecorded⟩ := recordSupplyCapacityTelemetry_spec hwf' haccepts recordedBy
      unfold receive
      rw [hs']
      exact hrecorded.again hshow

/-! ## A late report -/

/-- One supplier, and nothing reported. -/
def telemetryDB : TelemetryDB :=
  { suppliers := Table.empty.insert { id := 1 }
    capacities := .empty
    telemetries := .empty
    lastTelemetryId := fun _ => 0 }

theorem telemetryDB_wf : TelemetryWF telemetryDB :=
  ⟨⟨Table.uniqueOn_empty, fun _ hc => (nomatch hc)⟩, Table.uniqueOn_empty⟩

/-- What a node reports of one period. -/
def nodeReport (usedTokens observedAt : Int) : SupplyCapacityTelemetry :=
  { supplierId := 1, supplyNode := "node", modelName := "m", periodStart := 100, periodEnd := 200
    capacityTokens := 10, usedTokens, sourceRef := "run", observedAt }

/-- The period of these reports. -/
def nodePeriod : CapacityPeriod :=
  { supplierId := 1, supplyNode := "node", modelName := "m", periodStart := 100, periodEnd := 200 }

theorem nodeReport_last : (nodeReport 4 150).normalize ∈ (acceptedReports telemetryDB.suppliers
    nodePeriod [(nodeReport 6 180, 1), (nodeReport 4 150, 1)]).getLast? := by
  have haccepts : acceptsTelemetry telemetryDB.suppliers (nodeReport 4 150) = true := by
    decide
  have hperiod : (nodeReport 4 150).normalize.period = nodePeriod := by decide
  rw [show [(nodeReport 6 180, (1 : Int)), (nodeReport 4 150, 1)] =
      [(nodeReport 6 180, 1)] ++ [(nodeReport 4 150, 1)] from rfl, acceptedReports_concat,
    if_pos ⟨haccepts, hperiod⟩, List.getLast?_concat]
  rfl

/-- The report of 150 arrives after that of 180: the capacity shows the former. -/
theorem nodeReport_shown :
    (∃! c, c ∈ (Run.run receive telemetryDB
        [(nodeReport 6 180, 1), (nodeReport 4 150, 1)]).capacities.rows ∧ c.period = nodePeriod) ∧
      ∀ c ∈ (Run.run receive telemetryDB
          [(nodeReport 6 180, 1), (nodeReport 4 150, 1)]).capacities.rows,
        c.period = nodePeriod → c.reported = (nodeReport 4 150).normalize.reported := by
  obtain ⟨hone, hreported, -⟩ := telemetry_last_arrival telemetryDB_wf
    [(nodeReport 6 180, 1), (nodeReport 4 150, 1)] nodePeriod nodeReport_last
  exact ⟨hone, hreported⟩

/-- The greatest `ObservedAt` does not win. -/
theorem late_report_overwrites :
    ¬ ∀ (db : TelemetryDB) (arrivals : List (SupplyCapacityTelemetry × Int)), TelemetryWF db →
        (∀ a ∈ arrivals, acceptsTelemetry db.suppliers a.1 = true) →
        (arrivals.Pairwise fun a b => a.1.normalize.period = b.1.normalize.period →
          a.1.observedAt ≠ b.1.observedAt) →
        ∀ a ∈ arrivals, (∀ b ∈ arrivals, b.1.normalize.period = a.1.normalize.period →
            b.1.observedAt ≤ a.1.observedAt) →
          ∀ c ∈ (Run.run receive db arrivals).capacities.rows, c.period = a.1.normalize.period →
            c.reported = a.1.normalize.reported := by
  intro hall
  have hclaim := hall telemetryDB [(nodeReport 6 180, 1), (nodeReport 4 150, 1)] telemetryDB_wf
    (by decide) (by decide) (nodeReport 6 180, 1) List.mem_cons_self
    (by decide)
  obtain ⟨-, -, hshows⟩ := shows_of_arrivals telemetryDB_wf
    [(nodeReport 6 180, 1), (nodeReport 4 150, 1)]
  obtain ⟨-, c, hc, hperiod, hreported, -⟩ := hshows nodePeriod _ nodeReport_last
  have hperiods : (nodeReport 4 150).normalize.period = (nodeReport 6 180).normalize.period := by
    decide
  have heq := hclaim c hc (hperiod.trans hperiods)
  rw [hreported] at heq
  exact absurd (congrArg ReportedCapacity.observedAt heq) (by decide)

end TokenRouter
