import GridPlatform.EmonHub

/-!
What one `_update_settings` guarantees entry by entry, from the creation loop's step
`createInterfacers_cons`: every listed interfacer whose settings are complete and accepted runs
afterwards, and an update fails only where `set` refuses the runtime settings of an interfacer
that was already running. Over a run, the hub tells to stop only interfacers it has run.
-/
namespace GridPlatform.EmonHub

variable {σ : Type} [DecidableEq σ] {env : Environment σ}

omit [DecidableEq σ] in
theorem mem_of_lookup_eq_some {β : Type} {l : List (String × β)} {name : String} {b : β}
    (h : l.lookup name = some b) : (name, b) ∈ l := by
  obtain ⟨l₁, l₂, rfl, -⟩ := List.lookup_eq_some_iff.1 h
  exact List.mem_append_right _ (List.mem_cons_self _ _)

/-! ## Every complete entry runs -/

section Complete

variable {name type : String} {entry : InterfacerSettings σ} {initSettings runtimesettings : σ}
  (htype : entry.type = some type) (hinit : entry.initSettings = some initSettings)
  (hrun : entry.runtimesettings = some runtimesettings)
  (hcreates : env.creates type name initSettings runtimesettings = true)
include htype hinit hrun hcreates

omit [DecidableEq σ] in
/-- After the creation loop, a name listed with complete settings that the classes accept runs
the interfacer that ran under it before, or the one built from those settings. -/
theorem exists_mem_createInterfacers :
    ∀ {rest : List (String × InterfacerSettings σ)} {interfacers result : List (String × Interfacer σ)},
      (rest.map Prod.fst).Nodup → (name, entry) ∈ rest →
      createInterfacers env rest interfacers = .ok result →
      ∃ y, (name, y) ∈ result ∧ ((name, y) ∈ interfacers ∨ y = ⟨name, type, initSettings, false⟩)
  | (n, e) :: rest, interfacers, result, hnodup, hmem, h => by
    rw [createInterfacers_cons] at h
    obtain ⟨hn, hnodup⟩ := List.nodup_cons.1 hnodup
    rcases List.mem_cons.1 hmem with he | hmem
    · -- the entry itself
      obtain ⟨rfl, rfl⟩ := Prod.mk.inj he
      split at h
      · have hnew : (name, ⟨name, type, initSettings, false⟩) ∈ created env name entry := by
          simp [created, htype, hinit, hrun, hcreates]
        exact ⟨_, subset_createInterfacers h _ (List.mem_append_right _ hnew), .inr rfl⟩
      · rename_i y hy
        split_ifs at h
        exact ⟨y, subset_createInterfacers h _ (mem_of_lookup_eq_some hy),
          .inl (mem_of_lookup_eq_some hy)⟩
    · -- a later entry, under another name
      have hne : name ≠ n := fun he => hn (List.mem_map.2 ⟨_, hmem, he⟩)
      split at h
      · obtain ⟨y, hy, hy'⟩ := exists_mem_createInterfacers hnodup hmem h
        refine ⟨y, hy, hy'.imp_left fun hy' => (List.mem_append.1 hy').resolve_right fun hc => ?_⟩
        exact hne (mem_created hc).1
      · split_ifs at h
        exact exists_mem_createInterfacers hnodup hmem h

/-- After an update, every interfacer listed with a `'Type'`, `init_settings` and
`runtimesettings` that the classes accept runs under its name with those `init_settings`: the one
that ran before, whatever `'Type'` it was built with, or the one built from the settings. -/
theorem updateSettings_runs_listed {hub hub' : Hub σ} {settings : Settings σ}
    {deleted : List (String × Interfacer σ)} (h : updateSettings env hub settings = .ok (hub', deleted))
    (hmem : (name, entry) ∈ settings.interfacers) :
    ∃ y, (name, y) ∈ hub'.interfacers ∧ y.initSettings = initSettings ∧
      ((name, y) ∈ hub.interfacers ∨ y = ⟨name, type, initSettings, false⟩) := by
  obtain ⟨y, hy, hkept | rfl⟩ := exists_mem_createInterfacers htype hinit hrun hcreates
    settings.nodup hmem (updateSettings_ok h).1
  · obtain ⟨hkept, hk⟩ := List.mem_filter.1 hkept
    have hk : keeps settings name y = true := by simpa using hk
    simp only [keeps, lookup_of_mem settings.nodup hmem, htype, hinit, hrun,
      decide_eq_true_eq] at hk
    exact ⟨y, hy, hk, .inl hkept⟩
  · exact ⟨_, hy, rfl, .inr rfl⟩

end Complete

/-- `"serial"` is listed again with the `init_settings` it runs with: it keeps running. -/
theorem runningHub_runs_serial :
    let entry : InterfacerSettings Nat := ⟨some "EmonHubJeeInterfacer", some 5, some 2⟩
    let hub' : Hub Nat := ⟨[("serial", ⟨"serial", "EmonHubJeeInterfacer", 5, false⟩)], none⟩
    let deleted := [("old", ⟨"old", "EmonHubJeeInterfacer", 0, true⟩)]
    entry.type = some "EmonHubJeeInterfacer" ∧ entry.initSettings = some 5 ∧
    entry.runtimesettings = some 2 ∧ alwaysSucceeds.creates "EmonHubJeeInterfacer" "serial" 5 2 = true ∧
    updateSettings alwaysSucceeds runningHub unchangedSettings = .ok (hub', deleted) ∧
    ("serial", entry) ∈ unchangedSettings.interfacers ∧
    ∃ y, ("serial", y) ∈ hub'.interfacers ∧ y.initSettings = 5 ∧
      (("serial", y) ∈ runningHub.interfacers ∨ y = ⟨"serial", "EmonHubJeeInterfacer", 5, false⟩) :=
  have h : updateSettings alwaysSucceeds runningHub unchangedSettings =
      .ok (⟨[("serial", ⟨"serial", "EmonHubJeeInterfacer", 5, false⟩)], none⟩,
        [("old", ⟨"old", "EmonHubJeeInterfacer", 0, true⟩)]) := rfl
  ⟨rfl, rfl, rfl, rfl, h, .head _, updateSettings_runs_listed rfl rfl rfl rfl h (.head _)⟩

/-! ## Where an update fails -/

omit [DecidableEq σ] in
/-- The creation loop fails only at `set` on an interfacer that ran when it began, never on one it
has just built. -/
theorem createInterfacers_error :
    ∀ {rest : List (String × InterfacerSettings σ)} {interfacers : List (String × Interfacer σ)}
      {e : SetFailure}, (rest.map Prod.fst).Nodup → createInterfacers env rest interfacers = .error e →
      ∃ entry interfacer runtimesettings, (e.name, entry) ∈ rest ∧ (e.name, interfacer) ∈ interfacers ∧
        entry.runtimesettings = some runtimesettings ∧ env.sets interfacer runtimesettings = false
  | [], _, _, _, h => by cases h
  | (name, entry) :: rest, interfacers, e, hnodup, h => by
    rw [createInterfacers_cons] at h
    obtain ⟨hn, hnodup⟩ := List.nodup_cons.1 hnodup
    split at h
    · obtain ⟨entry', i, rs, he, hi, hrs, hsets⟩ := createInterfacers_error hnodup h
      refine ⟨entry', i, rs, List.mem_cons_of_mem _ he, ?_, hrs, hsets⟩
      -- what the loop built here runs under `name`, which no later entry lists
      exact (List.mem_append.1 hi).resolve_right fun hc =>
        hn (List.mem_map.2 ⟨_, he, (mem_created hc).1⟩)
    · rename_i i hi
      split_ifs at h with hsets
      · obtain ⟨entry', i', rs, he, hi', hrs, hsets'⟩ := createInterfacers_error hnodup h
        exact ⟨entry', i', rs, List.mem_cons_of_mem _ he, hi', hrs, hsets'⟩
      · cases h
        cases hrs : entry.runtimesettings with
        | none => simp [hrs] at hsets
        | some rs =>
          exact ⟨entry, i, rs, List.mem_cons_self _ _, mem_of_lookup_eq_some hi, hrs,
            by simpa [hrs] using hsets⟩

/-- A failed update names an interfacer that was running and that the deletion loop kept, listed
with `runtimesettings` that its `set` refused: building a new interfacer never fails an update. -/
theorem updateSettings_fails_only_at_set {hub : Hub σ} {settings : Settings σ} {e : SetFailure}
    (h : updateSettings env hub settings = .error e) :
    ∃ entry interfacer runtimesettings, settings.interfacers.lookup e.name = some entry ∧
      (e.name, interfacer) ∈ hub.interfacers ∧ keeps settings e.name interfacer = true ∧
      entry.runtimesettings = some runtimesettings ∧ env.sets interfacer runtimesettings = false := by
  obtain ⟨entry, i, rs, he, hi, hrs, hsets⟩ :=
    createInterfacers_error settings.nodup (updateSettings_error h)
  obtain ⟨hi, hk⟩ := List.mem_filter.1 hi
  exact ⟨entry, i, rs, lookup_of_mem settings.nodup he, hi, by simpa using hk, hrs, hsets⟩

/-- Interfacer classes whose `set` refuses every runtime setting. -/
def refusesSet : Environment Nat := ⟨fun _ _ _ _ => true, fun _ _ => false⟩

/-- `"serial"` is kept, and `set` refuses its runtime settings. -/
theorem runningHub_fails_at_serial :
    updateSettings refusesSet runningHub unchangedSettings = .error ⟨"serial"⟩ ∧
    ∃ entry interfacer runtimesettings, unchangedSettings.interfacers.lookup "serial" = some entry ∧
      ("serial", interfacer) ∈ runningHub.interfacers ∧
      keeps unchangedSettings "serial" interfacer = true ∧
      entry.runtimesettings = some runtimesettings ∧ refusesSet.sets interfacer runtimesettings = false :=
  have h : updateSettings refusesSet runningHub unchangedSettings = .error ⟨"serial"⟩ := rfl
  ⟨h, updateSettings_fails_only_at_set h⟩

end GridPlatform.EmonHub
