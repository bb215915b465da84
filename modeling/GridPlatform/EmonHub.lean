import Mathlib.Data.List.Basic
import Mathlib.Data.List.Nodup

/-!
`EmonHub._update_settings` of `emonhub/src/emonhub.py`. An interfacer not listed with a
`'Type'`, or whose `init_settings` changed, is stopped and deleted; a listed interfacer that is
not running is created, which can fail; a running one has its runtime settings set again, and a
failure there leaves the method. The interfacer classes are outside the source: whether
construction, `set` and `start` succeed is a parameter. Logging is left out.
-/
namespace GridPlatform.EmonHub

/-- An interfacer's section of `settings['interfacers']`, each key possibly missing. -/
structure InterfacerSettings (σ : Type) where
  type : Option String
  initSettings : Option σ
  runtimesettings : Option σ

/-- The settings read by `_update_settings`; `interfacers` is a dict, so its names are
distinct. -/
structure Settings (σ : Type) where
  interfacers : List (String × InterfacerSettings σ)
  nodes : Option σ
  nodup : (interfacers.map Prod.fst).Nodup

structure Interfacer (σ : Type) where
  name : String
  type : String
  initSettings : σ
  stop : Bool

structure Hub (σ : Type) where
  interfacers : List (String × Interfacer σ)
  nodelist : Option σ

/-- What the interfacer classes do: whether creating, setting and starting an interfacer of a
type succeeds, and whether `set` on a running one succeeds. -/
structure Environment (σ : Type) where
  creates : String → String → σ → σ → Bool
  sets : Interfacer σ → σ → Bool

/-- `set` raised on a running interfacer; the exception leaves `_update_settings`. -/
structure SetFailure where
  name : String

variable {σ : Type} [DecidableEq σ]

/-- Whether the deletion loop keeps the interfacer running under `name`. -/
def keeps (settings : Settings σ) (name : String) (interfacer : Interfacer σ) : Bool :=
  match settings.interfacers.lookup name with
  | none => false
  | some entry =>
    match entry.type, entry.initSettings, entry.runtimesettings with
    | none, _, _ => false
    | some _, some initSettings, some _ => interfacer.initSettings = initSettings
    | some _, _, _ => true

/-- The deletion loop over the running interfacers: those it does not keep are stopped and
deleted. It returns the interfacers kept and those deleted. -/
def deleteInterfacers (settings : Settings σ) :
    List (String × Interfacer σ) → List (String × Interfacer σ) × List (String × Interfacer σ)
  | [] => ([], [])
  | (name, interfacer) :: rest =>
    let (kept, deleted) := deleteInterfacers settings rest
    if keeps settings name interfacer then ((name, interfacer) :: kept, deleted)
    else (kept, (name, { interfacer with stop := true }) :: deleted)

/-- The creation loop over `settings['interfacers']`. -/
def createInterfacers (env : Environment σ) :
    List (String × InterfacerSettings σ) → List (String × Interfacer σ) →
      Except SetFailure (List (String × Interfacer σ))
  | [], interfacers => pure interfacers
  | (name, entry) :: rest, interfacers =>
    match interfacers.lookup name with
    | none =>
      match entry.type, entry.initSettings, entry.runtimesettings with
      | some type, some initSettings, some runtimesettings =>
        if env.creates type name initSettings runtimesettings then
          createInterfacers env rest (interfacers ++ [(name, ⟨name, type, initSettings, false⟩)])
        else createInterfacers env rest interfacers
      | _, _, _ => createInterfacers env rest interfacers
    | some interfacer =>
      match entry.runtimesettings with
      | some runtimesettings =>
        if env.sets interfacer runtimesettings then createInterfacers env rest interfacers
        else .error ⟨name⟩
      | none => createInterfacers env rest interfacers

/-- What the creation loop adds for an entry whose name is not running: the interfacer built from
its `'Type'`, `init_settings` and `runtimesettings`, when the classes accept them. -/
def created (env : Environment σ) (name : String) (entry : InterfacerSettings σ) :
    List (String × Interfacer σ) :=
  match entry.type, entry.initSettings, entry.runtimesettings with
  | some type, some initSettings, some runtimesettings =>
    if env.creates type name initSettings runtimesettings then
      [(name, ⟨name, type, initSettings, false⟩)]
    else []
  | _, _, _ => []

omit [DecidableEq σ] in
/-- One entry of the creation loop: a name not running gets what `created` builds; a running one
has its `runtimesettings`, if any, set, and a refusal leaves the loop. -/
theorem createInterfacers_cons (env : Environment σ) (name : String) (entry : InterfacerSettings σ)
    (rest : List (String × InterfacerSettings σ)) (interfacers : List (String × Interfacer σ)) :
    createInterfacers env ((name, entry) :: rest) interfacers =
      match interfacers.lookup name with
      | none => createInterfacers env rest (interfacers ++ created env name entry)
      | some interfacer =>
        if entry.runtimesettings.all (env.sets interfacer) then createInterfacers env rest interfacers
        else .error ⟨name⟩ := by
  rw [createInterfacers]
  split
  · rcases entry with ⟨_ | type, _ | initSettings, _ | runtimesettings⟩ <;>
      simp only [created, List.append_nil]
    split_ifs <;> simp only [List.append_nil]
  · rcases entry with ⟨_, _, _ | runtimesettings⟩ <;> rfl

omit [DecidableEq σ] in
theorem mem_created {env : Environment σ} {name : String} {entry : InterfacerSettings σ}
    {x : String × Interfacer σ} (hx : x ∈ created env name entry) :
    x.1 = name ∧ x.2.name = x.1 ∧ x.2.stop = false ∧ ∃ runtimesettings,
      entry.type = some x.2.type ∧ entry.initSettings = some x.2.initSettings ∧
      entry.runtimesettings = some runtimesettings ∧
      env.creates x.2.type x.1 x.2.initSettings runtimesettings = true := by
  unfold created at hx
  split at hx
  · rename_i type initSettings runtimesettings htype hinit hrun
    split_ifs at hx with hcreates
    · rw [List.mem_singleton.1 hx]
      exact ⟨rfl, rfl, rfl, runtimesettings, htype, hinit, hrun, hcreates⟩
    · exact absurd hx (List.not_mem_nil _)
  · exact absurd hx (List.not_mem_nil _)

omit [DecidableEq σ] in
/-- The creation loop never takes an interfacer off the map. -/
theorem subset_createInterfacers {env : Environment σ} :
    ∀ {rest : List (String × InterfacerSettings σ)} {interfacers result : List (String × Interfacer σ)},
      createInterfacers env rest interfacers = .ok result → ∀ x ∈ interfacers, x ∈ result
  | [], _, _, h => by cases h; exact fun _ => id
  | (name, entry) :: rest, interfacers, result, h => by
    rw [createInterfacers_cons] at h
    split at h
    · exact fun x hx => subset_createInterfacers h x (List.mem_append_left _ hx)
    · split_ifs at h
      exact subset_createInterfacers h

/-- `_update_settings`: the new hub and the interfacers it stopped and deleted. -/
def updateSettings (env : Environment σ) (hub : Hub σ) (settings : Settings σ) :
    Except SetFailure (Hub σ × List (String × Interfacer σ)) := do
  let (kept, deleted) := deleteInterfacers settings hub.interfacers
  let interfacers ← createInterfacers env settings.interfacers kept
  pure (⟨interfacers, settings.nodes <|> hub.nodelist⟩, deleted)

/-! ## Re-applying settings -/

/-- Every running interfacer is one the deletion loop keeps under `settings`. -/
def Listed (settings : Settings σ) (interfacers : List (String × Interfacer σ)) : Prop :=
  ∀ x ∈ interfacers, keeps settings x.1 x.2 = true

omit [DecidableEq σ] in
theorem lookup_of_mem {β : Type} {name : String} {b : β} :
    ∀ {l : List (String × β)}, (l.map Prod.fst).Nodup → (name, b) ∈ l → l.lookup name = some b
  | (k, c) :: l, hl, h => by
    obtain ⟨hk, hl⟩ := List.nodup_cons.1 hl
    by_cases hkn : name = k
    · subst hkn
      rcases List.mem_cons.1 h with h | h
      · rw [List.lookup_cons_self, (Prod.mk.inj h).2]
      · exact absurd (List.mem_map_of_mem Prod.fst h) hk
    · rw [List.lookup_cons, beq_false_of_ne hkn]
      exact lookup_of_mem hl ((List.mem_cons.1 h).resolve_left fun he => hkn (Prod.mk.inj he).1)

theorem exists_entry_of_keeps {settings : Settings σ} {name : String} {interfacer : Interfacer σ}
    (h : keeps settings name interfacer = true) :
    ∃ entry, settings.interfacers.lookup name = some entry ∧ entry.type.isSome := by
  unfold keeps at h
  split at h
  · cases h
  · exact ⟨_, ‹_›, by split at h <;> simp_all⟩

theorem deleteInterfacers_eq (settings : Settings σ) (interfacers : List (String × Interfacer σ)) :
    deleteInterfacers settings interfacers =
      (interfacers.filter fun x => keeps settings x.1 x.2,
        (interfacers.filter fun x => !keeps settings x.1 x.2).map
          fun x => (x.1, { x.2 with stop := true })) := by
  induction interfacers with
  | nil => rfl
  | cons x rest ih =>
    obtain ⟨name, interfacer⟩ := x
    simp only [deleteInterfacers, ih]
    by_cases hk : keeps settings name interfacer <;> simp [List.filter_cons, hk]

/-- A successful update runs what the creation loop leaves of the kept interfacers, and deletes
the others, told to stop. -/
theorem updateSettings_ok {env : Environment σ} {hub hub' : Hub σ} {settings : Settings σ}
    {deleted : List (String × Interfacer σ)} (h : updateSettings env hub settings = .ok (hub', deleted)) :
    createInterfacers env settings.interfacers (hub.interfacers.filter fun x => keeps settings x.1 x.2) =
      .ok hub'.interfacers ∧
    deleted = (hub.interfacers.filter fun x => !keeps settings x.1 x.2).map
      fun x => (x.1, { x.2 with stop := true }) := by
  simp only [updateSettings, deleteInterfacers_eq] at h
  cases hc : createInterfacers env settings.interfacers
    (hub.interfacers.filter fun x => keeps settings x.1 x.2) with
  | error e => rw [hc] at h; cases h
  | ok result => rw [hc] at h; cases h; exact ⟨rfl, rfl⟩

/-- A failed update is a failure of the creation loop over the kept interfacers. -/
theorem updateSettings_error {env : Environment σ} {hub : Hub σ} {settings : Settings σ}
    {e : SetFailure} (h : updateSettings env hub settings = .error e) :
    createInterfacers env settings.interfacers (hub.interfacers.filter fun x => keeps settings x.1 x.2) =
      .error e := by
  simp only [updateSettings, deleteInterfacers_eq] at h
  cases hc : createInterfacers env settings.interfacers
    (hub.interfacers.filter fun x => keeps settings x.1 x.2) with
  | error e' => rw [hc] at h; cases h; rfl
  | ok result => rw [hc] at h; cases h

/-- The creation loop keeps what runs and adds only interfacers it would keep. -/
theorem createInterfacers_listed {env : Environment σ} {settings : Settings σ} :
    ∀ {rest : List (String × InterfacerSettings σ)} {interfacers result : List (String × Interfacer σ)},
      (∀ x ∈ rest, x ∈ settings.interfacers) → Listed settings interfacers →
      createInterfacers env rest interfacers = .ok result →
      Listed settings result ∧ ∀ x ∈ interfacers, x ∈ result
  | [], _, _, _, hl, h => by cases h; exact ⟨hl, fun _ hx => hx⟩
  | (name, entry) :: rest, interfacers, result, hrest, hl, h => by
    have hrest' : ∀ x ∈ rest, x ∈ settings.interfacers := fun x hx => hrest x (List.mem_cons_of_mem _ hx)
    unfold createInterfacers at h
    split at h
    · split at h
      · rename_i type initSettings runtimesettings htype hinit hrun
        split_ifs at h
        · have hnew : keeps settings name ⟨name, type, initSettings, false⟩ = true := by
            simp [keeps, lookup_of_mem settings.nodup (hrest _ (List.mem_cons_self _ _)), htype,
              hinit, hrun]
          obtain ⟨hres, hsub⟩ := createInterfacers_listed hrest'
            (fun x hx => (List.mem_append.1 hx).elim (hl x) fun hx => by
              rw [List.mem_singleton.1 hx]; exact hnew) h
          exact ⟨hres, fun x hx => hsub x (List.mem_append_left _ hx)⟩
        · exact createInterfacers_listed hrest' hl h
      · exact createInterfacers_listed hrest' hl h
    · split at h
      · split_ifs at h
        exact createInterfacers_listed hrest' hl h
      · exact createInterfacers_listed hrest' hl h

/-- After `_update_settings(S)` every running interfacer is listed in `S` with a `'Type'`,
every interfacer taken off the map was stopped, and running `_update_settings(S)` again
deletes nothing. -/
theorem updateSettings_idempotent (env : Environment σ) (hub : Hub σ) (settings : Settings σ)
    {hub' : Hub σ} {deleted : List (String × Interfacer σ)}
    (h : updateSettings env hub settings = .ok (hub', deleted)) :
    (∀ name ∈ hub'.interfacers.map Prod.fst,
      ∃ entry, settings.interfacers.lookup name = some entry ∧ entry.type.isSome) ∧
    (∀ x ∈ hub.interfacers, x ∈ hub'.interfacers ∨ (x.1, { x.2 with stop := true }) ∈ deleted) ∧
    (∀ x ∈ deleted, x.2.stop = true) ∧
    deleteInterfacers settings hub'.interfacers = (hub'.interfacers, []) ∧
    ∀ (env' : Environment σ) hub'' deleted', updateSettings env' hub' settings = .ok (hub'', deleted') →
      deleted' = [] := by
  simp only [updateSettings, deleteInterfacers_eq] at h
  cases hc : createInterfacers env settings.interfacers (hub.interfacers.filter
    fun x => keeps settings x.1 x.2) with
  | error e => rw [hc] at h; cases h
  | ok result =>
    rw [hc] at h
    cases h
    obtain ⟨hres, hsub⟩ := createInterfacers_listed (fun x hx => hx)
      (fun x hx => by simpa using (List.mem_filter.1 hx).2) hc
    have hagain : deleteInterfacers settings result = (result, []) := by
      rw [deleteInterfacers_eq, List.filter_eq_self.2 hres,
        List.filter_eq_nil_iff.2 fun x hx => by simp [hres x hx]]
      rfl
    refine ⟨fun name hn => ?_, fun x hx => ?_, fun x hx => ?_, hagain, fun env' hub'' deleted' h' => ?_⟩
    · obtain ⟨x, hx, rfl⟩ := List.mem_map.1 hn
      exact exists_entry_of_keeps (hres x hx)
    · by_cases hk : keeps settings x.1 x.2
      · exact .inl (hsub x (List.mem_filter.2 ⟨hx, by simpa using hk⟩))
      · exact .inr (List.mem_map.2 ⟨x, List.mem_filter.2 ⟨hx, by simpa using hk⟩, rfl⟩)
    · obtain ⟨y, -, rfl⟩ := List.mem_map.1 hx
      rfl
    · simp only [updateSettings, hagain] at h'
      cases hc' : createInterfacers env' settings.interfacers result <;> rw [hc'] at h' <;> cases h'
      rfl

/-- Interfacer classes whose construction and `set` always succeed. -/
def alwaysSucceeds : Environment Nat := ⟨fun _ _ _ _ => true, fun _ _ => true⟩

/-- `"old"` is no longer listed and `"serial"` has new `init_settings`; `"socket"` is new. -/
def relistedSettings : Settings Nat :=
  ⟨[("serial", ⟨some "EmonHubJeeInterfacer", some 1, some 2⟩),
    ("socket", ⟨some "EmonHubSocketInterfacer", some 3, some 4⟩)], none, by decide⟩

def runningHub : Hub Nat :=
  ⟨[("old", ⟨"old", "EmonHubJeeInterfacer", 0, false⟩),
    ("serial", ⟨"serial", "EmonHubJeeInterfacer", 5, false⟩)], none⟩

theorem runningHub_update_idempotent :
    let hub' : Hub Nat := ⟨[("serial", ⟨"serial", "EmonHubJeeInterfacer", 1, false⟩),
      ("socket", ⟨"socket", "EmonHubSocketInterfacer", 3, false⟩)], none⟩
    let deleted := [("old", ⟨"old", "EmonHubJeeInterfacer", 0, true⟩),
      ("serial", ⟨"serial", "EmonHubJeeInterfacer", 5, true⟩)]
    updateSettings alwaysSucceeds runningHub relistedSettings = .ok (hub', deleted) ∧
    (∀ name ∈ hub'.interfacers.map Prod.fst,
      ∃ entry, relistedSettings.interfacers.lookup name = some entry ∧ entry.type.isSome) ∧
    (∀ x ∈ runningHub.interfacers,
      x ∈ hub'.interfacers ∨ (x.1, { x.2 with stop := true }) ∈ deleted) ∧
    (∀ x ∈ deleted, x.2.stop = true) ∧
    deleteInterfacers relistedSettings hub'.interfacers = (hub'.interfacers, []) ∧
    ∀ (env' : Environment Nat) hub'' deleted',
      updateSettings env' hub' relistedSettings = .ok (hub'', deleted') → deleted' = [] :=
  ⟨rfl, updateSettings_idempotent alwaysSucceeds runningHub relistedSettings rfl⟩

/-! ## The interfacer map over a run -/

/-- What the interfacer map keeps over a run: one interfacer per name, each held under its own
name and running. -/
structure WellFormed (interfacers : List (String × Interfacer σ)) : Prop where
  nodup : (interfacers.map Prod.fst).Nodup
  named : ∀ x ∈ interfacers, x.2.name = x.1
  running : ∀ x ∈ interfacers, x.2.stop = false

omit [DecidableEq σ] in
theorem WellFormed.filter {interfacers : List (String × Interfacer σ)} (h : WellFormed interfacers)
    (f : String × Interfacer σ → Bool) : WellFormed (interfacers.filter f) :=
  ⟨(List.filter_sublist _).map Prod.fst |>.nodup h.nodup,
    fun x hx => h.named x (List.mem_of_mem_filter hx),
    fun x hx => h.running x (List.mem_of_mem_filter hx)⟩

/-- `"serial"` is listed again with the `init_settings` it runs with; `"old"` is no longer
listed. -/
def unchangedSettings : Settings Nat :=
  ⟨[("serial", ⟨some "EmonHubJeeInterfacer", some 5, some 2⟩)], none, by decide⟩

end GridPlatform.EmonHub
