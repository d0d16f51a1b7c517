import Dispatch.Foundation.Execution
import Dispatch.Foundation.JsString
import Mathlib.Data.List.Nodup
import Mathlib.Logic.Function.Basic

/-! # The job history of the phone

`WebSocketService` keeps a history of jobs, and `WalletProvider` keeps another
one from the events that the service emits.
-/

namespace Dispatch.Mobile.JobHistory

structure CompletedJob where
  jobId : JsString
  taskType : String
  prompt : Option String
  timestamp : Nat
  durationMs : Nat
  success : Bool
  error : Option String
  feedbackTxHash : Option String
  feedbackExplorerUrl : Option String
  feedbackNetwork : Option String
  paymentTxHash : Option String
  paymentExplorerUrl : Option String
  paymentAmount : Option String
  feedbackFailed : Option Bool
  paymentFailed : Option Bool
  deriving DecidableEq

inductive Update
  | prepend (job : Nat)
  /-- `setJobHistory((prev) => [...prev])` -/
  | copy
  /-- `setJobHistory(history)` -/
  | replace (array : Nat)
  /-- `setJobsCompleted((prev) => prev + 1)` -/
  | increment
  /-- `setJobsCompleted(count)` -/
  | setCompleted (count : Nat)
  deriving DecidableEq

structure App where
  objects : Nat → CompletedJob
  objectCount : Nat
  arrays : Nat → List Nat
  arrayCount : Nat
  /-- `_jobHistory` of the service. -/
  serviceHistory : Nat
  jobHistory : Nat
  jobsCompleted : Nat
  updates : List Update
  /-- `loadPersistedState` has run. -/
  loaded : Bool
  executed : List Nat
  successes : Nat

def CompletedJob.absent : CompletedJob where
  jobId := []
  taskType := ""
  prompt := none
  timestamp := 0
  durationMs := 0
  success := false
  error := none
  feedbackTxHash := none
  feedbackExplorerUrl := none
  feedbackNetwork := none
  paymentTxHash := none
  paymentExplorerUrl := none
  paymentAmount := none
  feedbackFailed := none
  paymentFailed := none

def App.initial : App where
  objects _ := .absent
  objectCount := 0
  arrays _ := []
  arrayCount := 2
  serviceHistory := 0
  jobHistory := 1
  jobsCompleted := 0
  updates := []
  loaded := false
  executed := []
  successes := 0

namespace App

variable (app : App)

def jobId (job : Nat) : JsString :=
  (app.objects job).jobId

def history : List Nat :=
  app.arrays app.serviceHistory

/-! ## `WalletProvider` -/

def onJobCompleted (job : Nat) : App :=
  let updates :=
    if (app.objects job).success then [.prepend job, .increment]
    else [.prepend job]
  { app with updates := app.updates ++ updates }

def onPosted : App :=
  { app with updates := app.updates ++ [.copy] }

end App

def Update.apply (app : App) : Update → App
  | prepend job =>
    { app with
        arrays := Function.update app.arrays app.arrayCount
          ((job :: app.arrays app.jobHistory).take 50)
        arrayCount := app.arrayCount + 1
        jobHistory := app.arrayCount }
  | copy =>
    { app with
        arrays := Function.update app.arrays app.arrayCount
          (app.arrays app.jobHistory)
        arrayCount := app.arrayCount + 1
        jobHistory := app.arrayCount }
  | replace array => { app with jobHistory := array }
  | increment => { app with jobsCompleted := app.jobsCompleted + 1 }
  | setCompleted count => { app with jobsCompleted := count }

namespace App

variable (app : App)

def render : App :=
  app.updates.foldl Update.apply { app with updates := [] }

/-! ## `WebSocketService` -/

def newObject (job : CompletedJob) : App :=
  { app with
      objects := Function.update app.objects app.objectCount job
      objectCount := app.objectCount + 1 }

def unshift (job : Nat) : App :=
  let history := job :: app.history
  let app :=
    { app with
        arrays := Function.update app.arrays app.serviceHistory history }
  if 50 < history.length then
    { app with
        arrays := Function.update app.arrays app.arrayCount (history.take 50)
        arrayCount := app.arrayCount + 1
        serviceHistory := app.arrayCount }
  else app

def trackJob (job : CompletedJob) : App :=
  let tracked := (app.newObject job).unshift app.objectCount
  onJobCompleted
    { tracked with
        executed := app.objectCount :: app.executed
        successes := app.successes + job.success.toNat }
    app.objectCount

def find (jobId : JsString) : Option Nat :=
  app.history.find? fun job => app.jobId job = jobId

def amend (jobId : JsString) (change : CompletedJob → CompletedJob) : App :=
  match app.find jobId with
  | some job =>
    onJobCompleted
      { app with
          objects := Function.update app.objects job
            (change (app.objects job)) } job
  | none => app

def handleFeedbackPosted (jobId : JsString)
    (txHash explorerUrl network : String) : App :=
  let amended := app.amend jobId fun job =>
    { job with
        feedbackTxHash := some txHash
        feedbackExplorerUrl := some explorerUrl
        feedbackNetwork := some network
        feedbackFailed := some false }
  if (app.find jobId).isSome then amended.onPosted else amended

def handleFeedbackFailed (jobId : JsString) : App :=
  app.amend jobId fun job => { job with feedbackFailed := some true }

def amendAll (jobIds : List JsString)
    (change : CompletedJob → CompletedJob) : App :=
  jobIds.foldl (fun app jobId => app.amend jobId change) app

def handlePaymentPosted (jobIds : List JsString)
    (txHash explorerUrl amount : String) (token : Option String) : App :=
  onPosted (app.amendAll jobIds fun job =>
    { job with
        paymentTxHash := some txHash
        paymentExplorerUrl := some explorerUrl
        paymentAmount := some (amount ++ " " ++ token.getD "BOLT")
        paymentFailed := some false })

def handlePaymentFailed (jobIds : List JsString) : App :=
  app.amendAll jobIds fun job => { job with paymentFailed := some true }

/-! ## Loading the persisted state -/

def setCompleted (count : Option Nat) : App :=
  match count with
  | some count =>
    { app with
        updates := app.updates ++ [.setCompleted count]
        successes := app.successes + count }
  | none => app

def setHistory (history : Option (List CompletedJob)) : App :=
  match history with
  | some jobs =>
    let added := List.range' app.objectCount jobs.length
    { app with
        objects := fun job =>
          if app.objectCount ≤ job then
            (jobs[job - app.objectCount]?).getD .absent
          else app.objects job
        objectCount := app.objectCount + jobs.length
        arrays := Function.update app.arrays app.arrayCount added
        arrayCount := app.arrayCount + 1
        serviceHistory := app.arrayCount
        updates := app.updates ++ [.replace app.arrayCount]
        executed := app.executed ++ added }
  | none => app

def loadPersistedState (history : Option (List CompletedJob))
    (count : Option Nat) : App :=
  { (app.setCompleted count).setHistory history with loaded := true }

end App

/-! ## The machine -/

inductive Event
  | executed (job : CompletedJob)
  | feedbackPosted (jobId : JsString) (txHash explorerUrl network : String)
  | feedbackFailed (jobId : JsString)
  | paymentPosted (jobIds : List JsString) (txHash explorerUrl amount : String)
      (token : Option String)
  | paymentFailed (jobIds : List JsString)
  | restored (history : Option (List CompletedJob)) (count : Option Nat)
  | render

def App.Enabled (app : App) : Event → Prop
  | .executed job => ∀ earlier ∈ app.executed, app.jobId earlier ≠ job.jobId
  | .restored _ _ => app.loaded = false
  | .feedbackPosted _ _ _ _ | .feedbackFailed _ | .paymentPosted _ _ _ _ _
  | .paymentFailed _ | .render => True

instance (app : App) : DecidablePred app.Enabled
  | .executed job =>
    inferInstanceAs
      (Decidable (∀ earlier ∈ app.executed, app.jobId earlier ≠ job.jobId))
  | .restored _ _ => inferInstanceAs (Decidable (app.loaded = false))
  | .feedbackPosted _ _ _ _ | .feedbackFailed _ | .paymentPosted _ _ _ _ _
  | .paymentFailed _ | .render => inferInstanceAs (Decidable True)

def step (app : App) : Event → App
  | .executed job => app.trackJob job
  | .feedbackPosted jobId txHash explorerUrl network =>
    app.handleFeedbackPosted jobId txHash explorerUrl network
  | .feedbackFailed jobId => app.handleFeedbackFailed jobId
  | .paymentPosted jobIds txHash explorerUrl amount token =>
    app.handlePaymentPosted jobIds txHash explorerUrl amount token
  | .paymentFailed jobIds => app.handlePaymentFailed jobIds
  | .restored history count => app.loadPersistedState history count
  | .render => app.render

def machine : Machine App Event where
  initial := .initial
  Enabled := App.Enabled
  step := step

instance (app : App) (event : Event) : Decidable (machine.Enabled app event) :=
  inferInstanceAs (Decidable (app.Enabled event))

/-! ## Agreement -/

def Update.show (arrays : Nat → List Nat) (shown : List Nat × Nat) :
    Update → List Nat × Nat
  | prepend job => ((job :: shown.1).take 50, shown.2)
  | copy => shown
  | replace array => (arrays array, shown.2)
  | increment => (shown.1, shown.2 + 1)
  | setCompleted count => (shown.1, count)

def App.shown (app : App) : List Nat × Nat :=
  app.updates.foldl (Update.show app.arrays)
    (app.arrays app.jobHistory, app.jobsCompleted)

structure Agrees (app : App) : Prop where
  history : app.shown.1 = app.history
  newest : app.history = app.executed.take 50
  distinct : (app.history.map app.jobId).Nodup
  completed : app.shown.2 = app.successes

def App.Unshared (app : App) : Prop :=
  app.jobHistory ≠ app.serviceHistory ∧
    .replace app.serviceHistory ∉ app.updates

def App.Calm (app : App) : Event → Prop
  | .executed _ => app.Unshared
  | .feedbackPosted jobId _ _ _ | .feedbackFailed jobId =>
    app.find jobId = none
  | .paymentPosted jobIds _ _ _ _ | .paymentFailed jobIds =>
    ∀ jobId ∈ jobIds, app.find jobId = none
  | .restored history _ =>
    app.executed = [] ∧ ∀ jobs ∈ history,
      jobs.length ≤ 50 ∧ (jobs.map CompletedJob.jobId).Nodup
  | .render => True

/-! ## What is shown -/

theorem foldl_show_congr {first second : Nat → List Nat}
    {updates : List Update}
    (same : ∀ array, .replace array ∈ updates → first array = second array)
    (shown : List Nat × Nat) :
    updates.foldl (Update.show first) shown =
      updates.foldl (Update.show second) shown := by
  induction updates generalizing shown with
  | nil => rfl
  | cons update rest induction =>
    have head : update.show first shown = update.show second shown := by
      cases update with
      | replace array =>
        simp only [Update.show]
        rw [same array (by simp)]
      | prepend job => rfl
      | copy => rfl
      | increment => rfl
      | setCompleted count => rfl
    have restSame : ∀ array, .replace array ∈ rest →
        first array = second array := by
      intro array member
      exact same array (by simp [member])
    rw [List.foldl_cons, List.foldl_cons, head]
    exact induction restSame _

namespace App

variable (app : App)

@[simp] theorem shown_onPosted : app.onPosted.shown = app.shown := by
  simp [shown, onPosted, Update.show]

theorem shown_onJobCompleted (job : Nat) :
    (app.onJobCompleted job).shown =
      ((job :: app.shown.1).take 50,
        app.shown.2 + (app.objects job).success.toNat) := by
  cases success : (app.objects job).success <;>
    simp [shown, onJobCompleted, success, Update.show]

theorem replace_mem_onJobCompleted {job array : Nat} :
    .replace array ∈ (app.onJobCompleted job).updates ↔
      .replace array ∈ app.updates := by
  cases success : (app.objects job).success <;>
    simp [onJobCompleted, success]

theorem replace_mem_onPosted {array : Nat} :
    .replace array ∈ app.onPosted.updates ↔
      .replace array ∈ app.updates := by
  simp [onPosted]

end App

theorem App.foldl_show_eq_shown (app : App) {arrays : Nat → List Nat}
    (current : arrays app.jobHistory = app.arrays app.jobHistory)
    (given : ∀ array, .replace array ∈ app.updates →
      arrays array = app.arrays array) :
    app.updates.foldl (Update.show arrays)
        (arrays app.jobHistory, app.jobsCompleted) = app.shown := by
  rw [current]
  exact foldl_show_congr given _

theorem App.unshift_spec (app : App) (job : Nat)
    (bound : app.serviceHistory < app.arrayCount) :
    ∃ arrays arrayCount serviceHistory,
      app.unshift job =
          { app with
              arrays := arrays
              arrayCount := arrayCount
              serviceHistory := serviceHistory } ∧
        arrays serviceHistory = (job :: app.history).take 50 ∧
        serviceHistory < arrayCount ∧
        app.arrayCount ≤ arrayCount ∧
        ∀ array < app.arrayCount, array ≠ app.serviceHistory →
          arrays array = app.arrays array := by
  simp only [unshift]
  split
  case isTrue long =>
      refine ⟨_, _, _, rfl, Function.update_self .., ?_, ?_, ?_⟩
      · exact Nat.lt_succ_self _
      · exact Nat.le_succ _
      · intro array earlier other
        rw [Function.update_of_ne (Nat.ne_of_lt earlier),
          Function.update_of_ne other]
  case isFalse short =>
      refine ⟨_, _, _, rfl, ?_, bound, Nat.le_refl _, ?_⟩
      · rw [List.take_of_length_le (by omega)]
        exact Function.update_self ..
      · intro array _ other
        rw [Function.update_of_ne other]

/-! ## Calm runs -/

structure Consistent (app : App) : Prop where
  agrees : Agrees app
  ids : (app.executed.map app.jobId).Nodup
  executed : ∀ job ∈ app.executed, job < app.objectCount
  unloaded : app.loaded = false → app.executed = [] → app.successes = 0
  serviceHistory : app.serviceHistory < app.arrayCount
  jobHistory : app.jobHistory < app.arrayCount
  replaced : ∀ array, .replace array ∈ app.updates → array < app.arrayCount

theorem Agrees.of_executed {app : App} (history : app.shown.1 = app.history)
    (newest : app.history = app.executed.take 50)
    (completed : app.shown.2 = app.successes)
    (ids : (app.executed.map app.jobId).Nodup) : Agrees app where
  history := history
  newest := newest
  distinct := by
    rw [newest, List.map_take]
    exact ids.sublist (List.take_sublist _ _)
  completed := completed

theorem Agrees.of_same {app other : App} (agrees : Agrees app)
    (shown : other.shown = app.shown) (history : other.history = app.history)
    (objects : other.objects = app.objects)
    (executed : other.executed = app.executed)
    (successes : other.successes = app.successes) : Agrees other where
  history := by rw [shown, history, agrees.history]
  newest := by rw [history, executed, agrees.newest]
  distinct := by
    have sameIds : other.jobId = app.jobId := by
      funext job
      rw [App.jobId, App.jobId, objects]
    rw [history, sameIds]
    exact agrees.distinct
  completed := by rw [shown, successes, agrees.completed]

namespace Consistent

variable {app : App}

theorem initial : Consistent .initial where
  agrees := by
    refine .of_executed ?_ ?_ ?_ ?_ <;>
      simp [App.initial, App.shown, App.history]
  ids := by simp [App.initial]
  executed := by simp [App.initial]
  unloaded _ _ := rfl
  serviceHistory := by simp [App.initial]
  jobHistory := by simp [App.initial]
  replaced := by simp [App.initial]

theorem ids_newObject (consistent : Consistent app) {job : CompletedJob}
    (fresh : ∀ earlier ∈ app.executed, app.jobId earlier ≠ job.jobId) :
    ((app.objectCount :: app.executed).map
      (app.newObject job).jobId).Nodup := by
  -- The jobs that were executed before are older objects.
  have earlierId : ∀ earlier ∈ app.executed,
      (app.newObject job).jobId earlier = app.jobId earlier := by
    intro earlier member
    have older := Nat.ne_of_lt (consistent.executed earlier member)
    simp only [App.newObject, App.jobId, Function.update_of_ne older]
  rw [List.map_cons, List.map_congr_left earlierId, List.nodup_cons]
  refine ⟨?_, consistent.ids⟩
  rw [List.mem_map]
  rintro ⟨earlier, member, same⟩
  apply fresh earlier member
  rw [same]
  simp [App.newObject, App.jobId]

theorem trackJob (consistent : Consistent app) {job : CompletedJob}
    (fresh : ∀ earlier ∈ app.executed, app.jobId earlier ≠ job.jobId)
    (unshared : app.Unshared) : Consistent (app.trackJob job) := by
  rcases (app.newObject job).unshift_spec app.objectCount
    consistent.serviceHistory with
    ⟨arrays, arrayCount, serviceHistory, unshifted, newest, serviceBound,
      grown, kept⟩
  let tracked : App :=
    { app with
        objects := Function.update app.objects app.objectCount job
        objectCount := app.objectCount + 1
        arrays := arrays
        arrayCount := arrayCount
        serviceHistory := serviceHistory
        executed := app.objectCount :: app.executed
        successes := app.successes + job.success.toNat }
  have result : app.trackJob job = tracked.onJobCompleted app.objectCount := by
    rw [App.trackJob, unshifted]
    rfl
  have sameShown : tracked.shown = app.shown := by
    apply app.foldl_show_eq_shown (kept _ consistent.jobHistory unshared.1)
    intro array member
    apply kept _ (consistent.replaced array member)
    rintro rfl
    exact unshared.2 member
  have success : (tracked.objects app.objectCount).success = job.success := by
    simp [tracked]
  have ids : (tracked.executed.map tracked.jobId).Nodup :=
    consistent.ids_newObject fresh
  rw [result]
  refine ⟨.of_executed ?_ ?_ ?_ ids, ids, ?_, ?_, serviceBound, ?_, ?_⟩
  · rw [App.shown_onJobCompleted, sameShown, consistent.agrees.history]
    exact newest.symm
  · calc
      arrays serviceHistory
      _ = (app.objectCount :: app.history).take 50 := newest
      _ = (app.objectCount :: app.executed.take 50).take 50 := by
          rw [consistent.agrees.newest]
      _ = (app.objectCount :: app.executed).take 50 := by
          simp [List.take_take]
  · rw [App.shown_onJobCompleted, sameShown, consistent.agrees.completed,
      success]
    rfl
  · intro earlier member
    rcases List.mem_cons.mp member with rfl | member
    · exact Nat.lt_succ_self _
    · exact Nat.lt_succ_of_lt (consistent.executed earlier member)
  · nofun
  · exact Nat.lt_of_lt_of_le consistent.jobHistory grown
  · intro array member
    rw [App.replace_mem_onJobCompleted] at member
    exact Nat.lt_of_lt_of_le (consistent.replaced array member) grown

theorem onPosted (consistent : Consistent app) : Consistent app.onPosted where
  agrees := consistent.agrees.of_same app.shown_onPosted rfl rfl rfl rfl
  ids := consistent.ids
  executed := consistent.executed
  unloaded := consistent.unloaded
  serviceHistory := consistent.serviceHistory
  jobHistory := consistent.jobHistory
  replaced array member :=
    consistent.replaced array (app.replace_mem_onPosted.mp member)

theorem newArray {update : Update} {rest : List Update} {jobs : List Nat}
    (consistent : Consistent { app with updates := update :: rest })
    (shown : update.show app.arrays
      (app.arrays app.jobHistory, app.jobsCompleted) =
        (jobs, app.jobsCompleted)) :
    Consistent
      { app with
          arrays := Function.update app.arrays app.arrayCount jobs
          arrayCount := app.arrayCount + 1
          jobHistory := app.arrayCount
          updates := rest } := by
  have service : Function.update app.arrays app.arrayCount jobs
      app.serviceHistory = app.history :=
    Function.update_of_ne (Nat.ne_of_lt consistent.serviceHistory) _ _
  have restReplaced : ∀ array, .replace array ∈ rest →
      array < app.arrayCount := by
    intro array member
    exact consistent.replaced array (by simp [member])
  have sameShown : App.shown
      { app with
          arrays := Function.update app.arrays app.arrayCount jobs
          arrayCount := app.arrayCount + 1
          jobHistory := app.arrayCount
          updates := rest } =
        App.shown { app with updates := update :: rest } := by
    simp only [App.shown, Function.update_self, List.foldl_cons, shown]
    apply foldl_show_congr
    intro array member
    exact Function.update_of_ne (Nat.ne_of_lt (restReplaced array member)) _ _
  refine ⟨.of_executed ?_ ?_ ?_ consistent.ids, consistent.ids,
    consistent.executed, consistent.unloaded, ?_, Nat.lt_succ_self _, ?_⟩
  · rw [sameShown, consistent.agrees.history]
    exact service.symm
  · exact service.trans consistent.agrees.newest
  · rw [sameShown]
    exact consistent.agrees.completed
  · exact Nat.lt_succ_of_lt consistent.serviceHistory
  · intro array member
    exact Nat.lt_succ_of_lt (restReplaced array member)

theorem apply {update : Update} {rest : List Update}
    (consistent : Consistent { app with updates := update :: rest }) :
    Consistent { update.apply app with updates := rest } := by
  have restReplaced : ∀ array, .replace array ∈ rest →
      array < app.arrayCount := by
    intro array member
    exact consistent.replaced array (by simp [member])
  cases update with
  | prepend job => exact consistent.newArray rfl
  | copy => exact consistent.newArray rfl
  | replace array =>
    exact
      { consistent with
          agrees := consistent.agrees.of_same rfl rfl rfl rfl rfl
          jobHistory := consistent.replaced array (by simp)
          replaced := restReplaced }
  | increment =>
    exact
      { consistent with
          agrees := consistent.agrees.of_same rfl rfl rfl rfl rfl
          replaced := restReplaced }
  | setCompleted count =>
    exact
      { consistent with
          agrees := consistent.agrees.of_same rfl rfl rfl rfl rfl
          replaced := restReplaced }

theorem foldl_apply {updates : List Update}
    (consistent : Consistent { app with updates := updates }) :
    Consistent (updates.foldl Update.apply { app with updates := [] }) := by
  induction updates generalizing app with
  | nil => exact consistent
  | cons update rest induction =>
    have next : update.apply { app with updates := [] } =
        { update.apply app with updates := [] } := by
      cases update <;> rfl
    rw [List.foldl_cons, next]
    exact induction consistent.apply

theorem render (consistent : Consistent app) : Consistent app.render :=
  foldl_apply consistent

theorem setCompleted (consistent : Consistent app)
    (unloaded : app.loaded = false) (nothing : app.executed = [])
    (count : Option Nat) :
    Consistent { app.setCompleted count with loaded := true } := by
  cases count with
  | none =>
    exact
      { consistent with
          agrees := consistent.agrees.of_same rfl rfl rfl rfl rfl
          unloaded := nofun }
  | some count =>
    have none := consistent.unloaded unloaded nothing
    refine ⟨.of_executed ?_ consistent.agrees.newest ?_ consistent.ids,
      consistent.ids, consistent.executed, nofun, consistent.serviceHistory,
      consistent.jobHistory, ?_⟩
    · simpa [App.setCompleted, App.shown, Update.show, App.history] using
        consistent.agrees.history
    · simp [App.setCompleted, App.shown, Update.show, none]
    · intro array member
      apply consistent.replaced array
      simpa [App.setCompleted] using member

end Consistent

theorem App.map_jobId_setHistory (app : App) (jobs : List CompletedJob) :
    (List.range' app.objectCount jobs.length).map
        (app.setHistory (some jobs)).jobId = jobs.map CompletedJob.jobId := by
  apply List.ext_getElem
  · simp
  · intro index _ bound
    simp only [List.length_map] at bound
    simp [App.setHistory, App.jobId, bound]

namespace Consistent

variable {app : App}

theorem setHistory (consistent : Consistent app) (nothing : app.executed = [])
    (history : Option (List CompletedJob))
    (possible : ∀ jobs ∈ history,
      jobs.length ≤ 50 ∧ (jobs.map CompletedJob.jobId).Nodup) :
    Consistent (app.setHistory history) := by
  cases history with
  | none => exact consistent
  | some jobs =>
    rcases possible jobs rfl with ⟨short, distinct⟩
    have executed : (app.setHistory (some jobs)).executed =
        List.range' app.objectCount jobs.length := by
      simp [App.setHistory, nothing]
    have history : (app.setHistory (some jobs)).history =
        List.range' app.objectCount jobs.length := by
      simp [App.setHistory, App.history]
    have ids : ((app.setHistory (some jobs)).executed.map
        (app.setHistory (some jobs)).jobId).Nodup := by
      rw [executed, app.map_jobId_setHistory]
      exact distinct
    -- The updates before do not name the new array.
    have earlier : app.updates.foldl
        (Update.show (app.setHistory (some jobs)).arrays)
        ((app.setHistory (some jobs)).arrays app.jobHistory,
          app.jobsCompleted) = app.shown := by
      have old : ∀ array < app.arrayCount,
          (app.setHistory (some jobs)).arrays array = app.arrays array :=
        fun array earlier => Function.update_of_ne (Nat.ne_of_lt earlier) _ _
      apply app.foldl_show_eq_shown (old _ consistent.jobHistory)
      intro array member
      exact old array (consistent.replaced array member)
    have shown : (app.setHistory (some jobs)).shown =
        (List.range' app.objectCount jobs.length, app.shown.2) := by
      calc
        (app.setHistory (some jobs)).shown
        _ = Update.show (app.setHistory (some jobs)).arrays app.shown
              (.replace app.arrayCount) := by
            rw [← earlier]
            exact List.foldl_append
        _ = (List.range' app.objectCount jobs.length, app.shown.2) := by
            simp [App.setHistory, Update.show]
    refine ⟨.of_executed ?_ ?_ ?_ ids, ids, ?_, ?_, ?_, ?_, ?_⟩
    · rw [shown, history]
    · rw [history, executed, List.take_of_length_le (by simpa using short)]
    · rw [shown]
      exact consistent.agrees.completed
    · intro job member
      rw [executed, List.mem_range'_1] at member
      exact member.2
    · intro unloaded _
      exact consistent.unloaded unloaded nothing
    · exact Nat.lt_succ_self _
    · exact Nat.lt_succ_of_lt consistent.jobHistory
    · intro array member
      rcases List.mem_append.mp member with member | member
      · exact Nat.lt_succ_of_lt (consistent.replaced array member)
      · rw [List.mem_singleton, Update.replace.injEq] at member
        exact Nat.lt_succ_of_le (Nat.le_of_eq member)

theorem loadPersistedState (consistent : Consistent app)
    (unloaded : app.loaded = false) (nothing : app.executed = [])
    {history : Option (List CompletedJob)} (count : Option Nat)
    (possible : ∀ jobs ∈ history,
      jobs.length ≤ 50 ∧ (jobs.map CompletedJob.jobId).Nodup) :
    Consistent (app.loadPersistedState history count) := by
  have still : (app.setCompleted count).executed = [] := by
    cases count <;> exact nothing
  have counted := consistent.setCompleted unloaded nothing count
  have restored := counted.setHistory still history possible
  cases history <;> exact restored

end Consistent

/-! ## Frames about jobs that are not in the history -/

namespace App

variable {app : App}

theorem amend_of_find_none {jobId : JsString}
    (unknown : app.find jobId = none)
    (change : CompletedJob → CompletedJob) : app.amend jobId change = app := by
  rw [amend, unknown]

theorem amendAll_of_find_none {jobIds : List JsString}
    (unknown : ∀ jobId ∈ jobIds, app.find jobId = none)
    (change : CompletedJob → CompletedJob) :
    app.amendAll jobIds change = app := by
  induction jobIds with
  | nil => rfl
  | cons jobId rest induction =>
    have head := amend_of_find_none (unknown jobId (by simp)) change
    have restUnknown : ∀ other ∈ rest, app.find other = none := by
      intro other member
      exact unknown other (by simp [member])
    rw [amendAll, List.foldl_cons, head]
    exact induction restUnknown

end App

theorem Consistent.step {app : App} (consistent : Consistent app)
    {event : Event} (enabled : app.Enabled event) (calm : app.Calm event) :
    Consistent (step app event) := by
  cases event with
  | executed job => exact consistent.trackJob enabled calm
  | feedbackPosted jobId txHash explorerUrl network =>
    have unknown : app.find jobId = none := calm
    simp only [JobHistory.step, App.handleFeedbackPosted,
      App.amend_of_find_none unknown]
    simpa [unknown] using consistent
  | feedbackFailed jobId =>
    have unknown : app.find jobId = none := calm
    simp only [JobHistory.step, App.handleFeedbackFailed,
      App.amend_of_find_none unknown]
    exact consistent
  | paymentPosted jobIds txHash explorerUrl amount token =>
    simp only [JobHistory.step, App.handlePaymentPosted,
      App.amendAll_of_find_none calm]
    exact consistent.onPosted
  | paymentFailed jobIds =>
    simp only [JobHistory.step, App.handlePaymentFailed,
      App.amendAll_of_find_none calm]
    exact consistent
  | restored history count =>
    exact consistent.loadPersistedState enabled calm.1 count calm.2
  | render => exact consistent.render

/-- In a calm run the app always shows the history of the service and has
counted each successful job once. -/
theorem histories_agree_of_calm {events : List Event} {final : App}
    (run : machine.Run machine.initial events final)
    (calm : machine.Steps App.Calm machine.initial events) :
    machine.Along Agrees machine.initial events := by
  have consistent : machine.Along Consistent machine.initial events := by
    refine run.along ?_ .start .initial calm
    intro app event _ consistent enabled calm
    exact consistent.step enabled calm
  exact consistent.mono fun _ => Consistent.agrees

instance (app : App) : DecidablePred app.Calm
  | .executed _ => inferInstanceAs (Decidable (_ ∧ _))
  | .feedbackPosted jobId _ _ _ | .feedbackFailed jobId =>
    inferInstanceAs (Decidable (app.find jobId = none))
  | .paymentPosted jobIds _ _ _ _ | .paymentFailed jobIds =>
    inferInstanceAs (Decidable (∀ jobId ∈ jobIds, app.find jobId = none))
  | .restored history _ =>
    inferInstanceAs (Decidable (app.executed = [] ∧ ∀ jobs ∈ history,
      jobs.length ≤ 50 ∧ (jobs.map CompletedJob.jobId).Nodup))
  | .render => inferInstanceAs (Decidable True)

namespace Sample

def job (jobId : JsString) (success : Bool) : CompletedJob :=
  { CompletedJob.absent with
      jobId := jobId
      taskType := "summarize"
      success := success }

def calm : List Event :=
  [.restored (some [job "old" true]) (some 1), .render,
    .paymentPosted ["unknown"] "tx" "url" "5" none, .render,
    .executed (job "first" true), .executed (job "second" false),
    .feedbackFailed "unknown", .render]

def feedback : List Event :=
  [.executed (job "first" true), .feedbackPosted "first" "tx" "url" "monad",
    .render]

def reloaded : List Event :=
  [.restored (some [job "old" true]) (some 1), .render,
    .executed (job "first" true), .render]

end Sample

theorem sample_calm_agrees :
    machine.Along Agrees machine.initial Sample.calm ∧
      (machine.exec machine.initial Sample.calm).shown = ([2, 1, 0], 2) :=
  ⟨histories_agree_of_calm (.of_steps (by decide +kernel)) (by decide +kernel),
    by decide +kernel⟩

theorem sample_feedback_repeated :
    machine.Run machine.initial Sample.feedback
        (machine.exec machine.initial Sample.feedback) ∧
      (machine.exec machine.initial Sample.feedback).history = [0] ∧
      (machine.exec machine.initial Sample.feedback).successes = 1 ∧
      (machine.exec machine.initial Sample.feedback).shown = ([0, 0], 2) ∧
      machine.Run machine.initial Sample.reloaded
        (machine.exec machine.initial Sample.reloaded) ∧
      (machine.exec machine.initial Sample.reloaded).history = [1, 0] ∧
      (machine.exec machine.initial Sample.reloaded).shown = ([1, 1, 0], 2) :=
  ⟨.of_steps (by decide +kernel), by decide +kernel, by decide +kernel,
    by decide +kernel, .of_steps (by decide +kernel), by decide +kernel,
    by decide +kernel⟩

/-! ## Frames about a job in the history -/

end Dispatch.Mobile.JobHistory
