import AddonController.Prometheus.Deploy

/-!
# Which failures `deployPrometheus` reports

A feature whose deploy function returns nil is recorded Provisioned, so every failed call should
reach the caller as an error. `deployKubeStateMetrics` breaks this: its first three steps end it
with `return nil` when they fail. This file proves that these are the only failures dropped, by
closure lemmas over `Remote` in the style of a program logic: `OkCalls P x` says that a run of
`x` ending without error adds only calls satisfying `P`. Conversely, `Reports P x` says that a run
of `x` ends without error exactly when the calls it adds satisfy `P`, so `deployPrometheus`
reports every other failure.
-/

namespace AddonController

/-- The manifests `deployKubeStateMetrics` applies before its readiness check. -/
def Manifest.appliedBeforeKubeStateMetrics : Manifest → Bool
  | .prometheusClusterRole | .prometheusClusterRoleBinding | .prometheus | .ksmServiceMonitor =>
    true
  | .prometheusYAML | .kubeStateMetricsYAML | .kubePrometheusYAML => false

/-- A call a successful `deployPrometheus` may have made: a readiness check that found the
deployment ready, a call without error, or a failed manifest of `deployKubeStateMetrics`'s
first steps. -/
def Call.Tolerated : Call → Prop
  | .isDeploymentReady _ _ ready err => ready = true ∧ err = none
  | .deployDoc manifest err => err = none ∨ manifest.appliedBeforeKubeStateMetrics = true
  | .createNamespace _ err | .getPrometheusInstance err | .update _ err => err = none

/-! ### A failing run -/

/-- A workload cluster where every call succeeds and both deployments are present and ready. -/
def WorkloadCluster.healthy : WorkloadCluster where
  isDeploymentReady := fun _ _ => (true, true, none)
  createNamespace := fun _ _ => none
  deployDoc := fun _ _ => none
  getPrometheusInstance := fun _ => .ok ⟨none⟩
  update := fun _ _ => none

/-- The healthy cluster, except that applying `manifest` fails with `err`. -/
def WorkloadCluster.rejecting (manifest : Manifest) (err : String) : WorkloadCluster :=
  { WorkloadCluster.healthy with
    deployDoc := fun _ m => if m = manifest then some err else none }

/-- A ClusterSummary whose only feature is Prometheus, configured by `prometheusConfiguration`. -/
def prometheusSummary (prometheusConfiguration : PrometheusConfiguration) : ClusterSummary where
  name := "summary"
  finalizers := []
  deletionTimestamp := none
  spec := ⟨"default", "workload", ⟨[], none, some prometheusConfiguration⟩⟩
  status := ⟨""⟩

/-- The Prometheus configuration of installation mode `mode`, without storage or ConfigMaps. -/
def modeOnly (mode : String) : PrometheusConfiguration := ⟨mode, none, none, []⟩

/-- In kube-state-metrics mode, a rejected Prometheus ClusterRole is dropped: `deployPrometheus`
returns nil although its second call failed. -/
theorem deployPrometheus_drops_clusterRole_failure :
    deployPrometheus (.ok (prometheusSummary (modeOnly PrometheusInstallationModeKubeStateMetrics)))
        (.rejecting .prometheusClusterRole "forbidden") [] =
      (.ok (), [.isDeploymentReady .prometheus true true none,
        .deployDoc .prometheusClusterRole (some "forbidden")]) := rfl

/-- The calls of `deployPrometheus` in kube-state-metrics mode on the healthy cluster. -/
def healthyKubeStateMetricsCalls : List Call :=
  [.isDeploymentReady .prometheus true true none, .deployDoc .prometheusClusterRole none,
    .deployDoc .prometheusClusterRoleBinding none, .deployDoc .prometheus none,
    .deployDoc .ksmServiceMonitor none, .isDeploymentReady .kubestatemetrics true true none]

/-! ### Closure lemmas -/

section Closure

variable {α β : Type} (P : Call → Prop)

/-- Every run of `x` only appends calls satisfying `P`, whatever it returns. -/
def AllCalls (x : Remote α) : Prop :=
  ∀ w calls, ∃ new, (x w calls).2 = calls ++ new ∧ ∀ c ∈ new, P c

/-- Every run of `x` that ends without error only appends calls satisfying `P`. -/
def OkCalls (x : Remote α) : Prop :=
  ∀ w calls a calls', x w calls = (.ok a, calls') → ∃ new, calls' = calls ++ new ∧ ∀ c ∈ new, P c

variable {P}

theorem AllCalls.okCalls {x : Remote α} (hx : AllCalls P x) : OkCalls P x := by
  intro w calls a calls' h
  simpa [h] using hx w calls

theorem okCalls_pure (a : α) : OkCalls P (pure a : Remote α) := by
  intro w calls b calls' h
  cases h
  exact ⟨[], by simp, by simp⟩

theorem okCalls_ofExcept (e : Except String α) : OkCalls P (Remote.ofExcept e) := by
  intro w calls a calls' h
  cases h
  exact ⟨[], by simp, by simp⟩

theorem OkCalls.bind {x : Remote α} {f : α → Remote β} (hx : OkCalls P x)
    (hf : ∀ a, OkCalls P (f a)) : OkCalls P (x >>= f) := by
  intro w calls b calls' h
  rw [Remote.bind_apply] at h
  split at h
  · rename_i a calls₁ hrun
    obtain ⟨new₁, rfl, hnew₁⟩ := hx w calls a calls₁ hrun
    obtain ⟨new₂, rfl, hnew₂⟩ := hf a w _ b calls' h
    exact ⟨new₁ ++ new₂, by simp, by simp only [List.mem_append]; rintro c (hc | hc) <;> simp_all⟩
  · cases h

theorem AllCalls.bind {x : Remote α} {f : α → Remote β} (hx : AllCalls P x)
    (hf : ∀ a, AllCalls P (f a)) : AllCalls P (x >>= f) := by
  intro w calls
  obtain ⟨new₁, hcalls₁, hnew₁⟩ := hx w calls
  rw [Remote.bind_apply]
  split
  · rename_i a calls₁ hrun
    rw [hrun] at hcalls₁
    obtain ⟨new₂, hcalls₂, hnew₂⟩ := hf a w calls₁
    simp only at hcalls₁
    subst hcalls₁
    exact ⟨new₁ ++ new₂, by simp [hcalls₂], by
      simp only [List.mem_append]; rintro c (hc | hc) <;> simp_all⟩
  · rename_i err calls₁ hrun
    rw [hrun] at hcalls₁
    exact ⟨new₁, hcalls₁, hnew₁⟩

theorem OkCalls.ite {x y : Remote Unit} (b : Bool) (hx : OkCalls P x) (hy : OkCalls P y) :
    OkCalls P (if b then x else y) := by
  cases b <;> assumption

theorem okCalls_deployDoc (manifest : Manifest) (h : P (.deployDoc manifest none)) :
    OkCalls P (deployDoc manifest) := by
  intro w calls a calls' hrun
  simp only [deployDoc] at hrun
  cases herr : w.deployDoc calls manifest <;> simp [herr, Remote.ofErr] at hrun
  exact ⟨_, hrun.symm, by simpa [herr] using h⟩

theorem allCalls_deployDoc (manifest : Manifest) (h : ∀ err, P (.deployDoc manifest err)) :
    AllCalls P (deployDoc manifest) :=
  fun w calls => ⟨_, rfl, by simp [h]⟩

theorem okCalls_createNamespace (component : Component) (h : P (.createNamespace component none)) :
    OkCalls P (createNamespace component) := by
  intro w calls a calls' hrun
  simp only [createNamespace] at hrun
  cases herr : w.createNamespace calls component <;> simp [herr, Remote.ofErr] at hrun
  exact ⟨_, hrun.symm, by simpa [herr] using h⟩

theorem okCalls_getPrometheusInstance (h : P (.getPrometheusInstance none)) :
    OkCalls P getPrometheusInstance := by
  intro w calls a calls' hrun
  simp only [getPrometheusInstance] at hrun
  split at hrun
  · cases hrun; exact ⟨_, rfl, by simpa using h⟩
  · cases hrun

theorem okCalls_update (h : ∀ p, P (.update p none)) (prometheusInstance : PrometheusInstance) :
    OkCalls P (update prometheusInstance) := by
  intro w calls a calls' hrun
  simp only [update] at hrun
  cases herr : w.update calls prometheusInstance <;> simp [herr, Remote.ofErr] at hrun
  exact ⟨_, hrun.symm, by simpa [herr] using h _⟩

/-- A successful `ensureReady` made a readiness check that found the deployment ready. -/
theorem okCalls_ensureReady (component : Component) {install : Remote Unit}
    (hready : ∀ present, P (.isDeploymentReady component present true none))
    (hinstall : OkCalls P install) :
    OkCalls P (ensureReady (isDeploymentReady component) install) := by
  intro w calls a calls' hrun
  rcases hw : w.isDeploymentReady calls component with ⟨present, ready, err⟩
  simp only [ensureReady, isDeploymentReady, hw, Remote.bind_apply] at hrun
  cases err with
  | some err => simp [Remote.ofErr, Except.map] at hrun
  | none =>
    simp only [Remote.ofErr, Except.map] at hrun
    cases ready with
    | false =>
      cases present <;> simp at hrun
      split at hrun <;> simp at hrun
    | true =>
      cases present <;> simp at hrun
      · split at hrun
        · rename_i calls₁ hinst
          cases hrun
          obtain ⟨new, rfl, hnew⟩ := hinstall w _ _ _ hinst
          exact ⟨.isDeploymentReady component false true none :: new, by simp,
            by simpa using ⟨hready false, hnew⟩⟩
        · cases hrun
      · exact ⟨_, hrun.symm, by simpa using hready true⟩

theorem allCalls_result {x : Remote α} (hx : AllCalls P x) : AllCalls P (Remote.result x) := hx

/-- `returnNilOnError step rest` succeeds after any run of `step`, so every call `step` may make
has to be tolerated. -/
theorem okCalls_returnNilOnError {step rest : Remote Unit} (hstep : AllCalls P step)
    (hrest : OkCalls P rest) : OkCalls P (returnNilOnError step rest) :=
  (allCalls_result hstep).okCalls.bind fun r => by
    cases r
    · exact okCalls_pure ()
    · exact hrest

end Closure

/-! ### Every function of `deployPrometheus` -/

theorem okCalls_installInWorkloadCluster (component : Component) (manifest : Manifest) :
    OkCalls Call.Tolerated (installInWorkloadCluster component manifest) :=
  OkCalls.bind (okCalls_createNamespace component rfl) fun _ =>
    okCalls_deployDoc manifest (.inl rfl)

theorem okCalls_deployPrometheusOperator : OkCalls Call.Tolerated deployPrometheusOperator :=
  okCalls_ensureReady .prometheus (fun _ => ⟨rfl, rfl⟩) (okCalls_installInWorkloadCluster _ _)

theorem okCalls_deployKubePrometheusStack : OkCalls Call.Tolerated deployKubePrometheusStack :=
  okCalls_ensureReady .prometheus (fun _ => ⟨rfl, rfl⟩) (okCalls_installInWorkloadCluster _ _)

theorem allCalls_deployPrometheusClusterRole :
    AllCalls Call.Tolerated deployPrometheusClusterRole :=
  AllCalls.bind (allCalls_deployDoc _ fun _ => .inr rfl) fun _ =>
    allCalls_deployDoc _ fun _ => .inr rfl

/-- The failures `deployKubeStateMetrics` drops are failures to apply one of its first manifests. -/
theorem okCalls_deployKubeStateMetrics : OkCalls Call.Tolerated deployKubeStateMetrics :=
  okCalls_returnNilOnError allCalls_deployPrometheusClusterRole <|
  okCalls_returnNilOnError (allCalls_deployDoc _ fun _ => .inr rfl) <|
  okCalls_returnNilOnError (allCalls_deployDoc _ fun _ => .inr rfl) <|
  okCalls_ensureReady .kubestatemetrics (fun _ => ⟨rfl, rfl⟩) (okCalls_installInWorkloadCluster _ _)

theorem okCalls_addStorageConfig (clusterSummary : ClusterSummary) :
    OkCalls Call.Tolerated (addStorageConfig clusterSummary) := by
  unfold addStorageConfig
  split
  · exact okCalls_pure ()
  · split
    · exact okCalls_pure ()
    · split
      · exact okCalls_pure ()
      · refine OkCalls.bind (okCalls_getPrometheusInstance rfl) fun _ => ?_
        apply okCalls_update
        exact fun _ => rfl

/-- `deployPrometheus` returns nil only if every call it made succeeded and every readiness check
it made found its deployment ready, apart from failures to apply the ClusterRole, its binding, the
Prometheus instance or the ServiceMonitor, which `deployKubeStateMetrics` drops. -/
theorem deployPrometheus_reports_failures (fetched : Except String ClusterSummary)
    (w : WorkloadCluster) (calls calls' : List Call)
    (hrun : deployPrometheus fetched w calls = (.ok (), calls')) :
    ∃ new, calls' = calls ++ new ∧ ∀ c ∈ new, c.Tolerated := by
  have hok : OkCalls Call.Tolerated (deployPrometheus fetched) :=
    OkCalls.bind (okCalls_ofExcept fetched) fun clusterSummary =>
    OkCalls.bind (OkCalls.ite _ okCalls_deployPrometheusOperator (okCalls_pure _)) fun _ =>
    OkCalls.bind (OkCalls.ite _ okCalls_deployKubeStateMetrics (okCalls_pure _)) fun _ =>
    OkCalls.bind (OkCalls.ite _ okCalls_deployKubePrometheusStack (okCalls_pure _)) fun _ =>
    okCalls_addStorageConfig clusterSummary
  exact hok w calls () calls' hrun

/-- A run on the healthy cluster in kube-state-metrics mode, where no call fails. -/
theorem deployPrometheus_reports_failures_healthy :
    deployPrometheus (.ok (prometheusSummary (modeOnly PrometheusInstallationModeKubeStateMetrics)))
        .healthy [] =
      (.ok (), healthyKubeStateMetricsCalls) ∧
    ∃ new, healthyKubeStateMetricsCalls = [] ++ new ∧ ∀ c ∈ new, Call.Tolerated c :=
  ⟨rfl, deployPrometheus_reports_failures
    (.ok (prometheusSummary (modeOnly PrometheusInstallationModeKubeStateMetrics))) .healthy _ _
    rfl⟩

/-! ### Exactly these failures -/

section Reports

variable {α β : Type} (P : Call → Prop)

/-- Every run of `x` appends calls, and ends without error exactly when they all satisfy `P`. -/
def Reports (x : Remote α) : Prop :=
  ∀ w calls, ∃ new, (x w calls).2 = calls ++ new ∧ ((x w calls).1.isOk = true ↔ ∀ c ∈ new, P c)

variable {P}

theorem reports_pure (a : α) : Reports P (pure a : Remote α) :=
  fun _ calls => ⟨[], by simp, by simp [Except.isOk, Except.toBool]⟩

theorem Reports.bind {x : Remote α} {f : α → Remote β} (hx : Reports P x)
    (hf : ∀ a, Reports P (f a)) : Reports P (x >>= f) := by
  intro w calls
  obtain ⟨newx, hxcalls, hxok⟩ := hx w calls
  rw [Remote.bind_apply]
  rcases hrun : x w calls with ⟨_ | a, calls₁⟩ <;> rw [hrun] at hxcalls hxok <;>
    simp only at hxcalls hxok ⊢
  · exact ⟨newx, hxcalls, by simpa [Except.isOk, Except.toBool] using hxok⟩
  · obtain ⟨newf, hfcalls, hfok⟩ := hf a w calls₁
    have hnewx : ∀ c ∈ newx, P c := hxok.mp rfl
    refine ⟨newx ++ newf, by rw [hfcalls, hxcalls, List.append_assoc], ?_⟩
    rw [hfok]
    simp only [List.mem_append]
    exact ⟨fun h c hc => hc.elim (hnewx c) (h c), fun h c hc => h c (.inr hc)⟩

theorem Reports.ite {x y : Remote Unit} (b : Bool) (hx : Reports P x) (hy : Reports P y) :
    Reports P (if b then x else y) := by
  cases b <;> assumption

/-- A call reports its own error. -/
theorem reports_call (call : Option String → Call)
    (answer : WorkloadCluster → List Call → Option String)
    (h : ∀ err, P (call err) ↔ err = none) :
    Reports P fun w calls =>
      (Remote.ofErr (answer w calls), calls ++ [call (answer w calls)]) := by
  intro w calls
  refine ⟨[call (answer w calls)], rfl, ?_⟩
  cases hanswer : answer w calls <;> simp [Remote.ofErr, Except.isOk, Except.toBool, h, hanswer]

theorem reports_deployDoc (manifest : Manifest)
    (h : ∀ err, P (.deployDoc manifest err) ↔ err = none) :
    Reports P (deployDoc manifest) :=
  reports_call (.deployDoc manifest) (fun w calls => w.deployDoc calls manifest) h

theorem reports_createNamespace (component : Component)
    (h : ∀ err, P (.createNamespace component err) ↔ err = none) :
    Reports P (createNamespace component) :=
  reports_call (.createNamespace component) (fun w calls => w.createNamespace calls component) h

theorem reports_update (prometheusInstance : PrometheusInstance)
    (h : ∀ err, P (.update prometheusInstance err) ↔ err = none) :
    Reports P (update prometheusInstance) :=
  reports_call (.update prometheusInstance) (fun w calls => w.update calls prometheusInstance) h

theorem reports_getPrometheusInstance (h : ∀ err, P (.getPrometheusInstance err) ↔ err = none) :
    Reports P getPrometheusInstance := by
  intro w calls
  simp only [getPrometheusInstance]
  cases w.getPrometheusInstance calls <;>
    exact ⟨_, rfl, by simp [Except.isOk, Except.toBool, h]⟩

theorem reports_returnNilOnError {step rest : Remote Unit} (hstep : AllCalls P step)
    (hrest : Reports P rest) : Reports P (returnNilOnError step rest) := by
  intro w calls
  obtain ⟨news, hscalls, hsP⟩ := hstep w calls
  simp only [returnNilOnError, Remote.bind_apply, Remote.result_apply]
  rcases hrun : step w calls with ⟨_ | _, calls₁⟩ <;> rw [hrun] at hscalls <;>
    simp only at hscalls ⊢
  · exact ⟨news, hscalls, by simpa [Except.isOk, Except.toBool] using hsP⟩
  · obtain ⟨newr, hrcalls, hrok⟩ := hrest w calls₁
    refine ⟨news ++ newr, by rw [hrcalls, hscalls, List.append_assoc], ?_⟩
    rw [hrok]
    simp only [List.mem_append]
    exact ⟨fun h c hc => hc.elim (hsP c) (h c), fun h c hc => h c (.inr hc)⟩

theorem reports_ensureReady (component : Component) {install : Remote Unit}
    (hready : ∀ present ready err,
      P (.isDeploymentReady component present ready err) ↔ ready = true ∧ err = none)
    (hinstall : Reports P install) :
    Reports P (ensureReady (isDeploymentReady component) install) := by
  intro w calls
  rcases hw : w.isDeploymentReady calls component with ⟨present, ready, err⟩
  simp only [ensureReady, isDeploymentReady, hw, Remote.bind_apply]
  cases err with
  | some err =>
    exact ⟨_, rfl, by simp [Remote.ofErr, Except.map, Except.isOk, Except.toBool, hready]⟩
  | none =>
    simp only [Remote.ofErr, Except.map]
    cases present with
    | true =>
      cases ready <;> exact ⟨[.isDeploymentReady component true _ none], rfl,
        by simp [hready, Except.isOk, Except.toBool]⟩
    | false =>
      let check := Call.isDeploymentReady component false ready none
      obtain ⟨newi, hicalls, hiok⟩ := hinstall w (calls ++ [check])
      refine ⟨check :: newi, ?_, ?_⟩ <;>
        rcases hrun : install w (calls ++ [check]) with ⟨_ | _, calls₁⟩ <;>
        rw [hrun] at hicalls hiok <;> cases ready <;> simp_all [check, Except.isOk, Except.toBool]

end Reports

theorem reports_installInWorkloadCluster (component : Component) {manifest : Manifest}
    (hmanifest : manifest.appliedBeforeKubeStateMetrics = false) :
    Reports Call.Tolerated (installInWorkloadCluster component manifest) :=
  (reports_createNamespace component fun _ => .rfl).bind fun _ =>
    reports_deployDoc manifest fun _ => by simp [Call.Tolerated, hmanifest]

theorem reports_deployPrometheusOperator : Reports Call.Tolerated deployPrometheusOperator :=
  reports_ensureReady .prometheus (fun _ _ _ => .rfl) (reports_installInWorkloadCluster _ rfl)

theorem reports_deployKubePrometheusStack : Reports Call.Tolerated deployKubePrometheusStack :=
  reports_ensureReady .prometheus (fun _ _ _ => .rfl) (reports_installInWorkloadCluster _ rfl)

theorem reports_deployKubeStateMetrics : Reports Call.Tolerated deployKubeStateMetrics :=
  reports_returnNilOnError allCalls_deployPrometheusClusterRole <|
  reports_returnNilOnError (allCalls_deployDoc _ fun _ => .inr rfl) <|
  reports_returnNilOnError (allCalls_deployDoc _ fun _ => .inr rfl) <|
  reports_ensureReady .kubestatemetrics (fun _ _ _ => .rfl) (reports_installInWorkloadCluster _ rfl)

theorem reports_addStorageConfig (clusterSummary : ClusterSummary) :
    Reports Call.Tolerated (addStorageConfig clusterSummary) := by
  unfold addStorageConfig
  split
  · exact reports_pure ()
  · split
    · exact reports_pure ()
    · split
      · exact reports_pure ()
      · exact (reports_getPrometheusInstance fun _ => .rfl).bind fun _ =>
          reports_update _ fun _ => .rfl

theorem reports_deployPrometheus (clusterSummary : ClusterSummary) :
    Reports Call.Tolerated (deployPrometheus (.ok clusterSummary)) :=
  (Reports.ite _ reports_deployPrometheusOperator (reports_pure _)).bind fun _ =>
  (Reports.ite _ reports_deployKubeStateMetrics (reports_pure _)).bind fun _ =>
  (Reports.ite _ reports_deployKubePrometheusStack (reports_pure _)).bind fun _ =>
  reports_addStorageConfig clusterSummary

/-- On a fetched ClusterSummary, `deployPrometheus` returns nil exactly when every call it made is
tolerated: every failed call and every readiness check that finds a deployment not ready is
reported, except a failure to apply one of the first manifests of `deployKubeStateMetrics`. -/
theorem deployPrometheus_ok_iff_tolerated (clusterSummary : ClusterSummary) (w : WorkloadCluster)
    (calls : List Call) :
    ∃ new, (deployPrometheus (.ok clusterSummary) w calls).2 = calls ++ new ∧
      ((deployPrometheus (.ok clusterSummary) w calls).1 = .ok () ↔ ∀ c ∈ new, c.Tolerated) := by
  obtain ⟨new, hcalls, hok⟩ := reports_deployPrometheus clusterSummary w calls
  refine ⟨new, hcalls, ?_⟩
  rw [← hok]
  cases (deployPrometheus (.ok clusterSummary) w calls).1 <;> simp [Except.isOk, Except.toBool]

end AddonController
