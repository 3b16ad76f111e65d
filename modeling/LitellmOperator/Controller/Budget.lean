import LitellmOperator.Controller.Reconcile

/-! # The LiteLLMBudget controller

`litellmbudget_controller.go`. A budget's id in LiteLLM is chosen by the resource when it is
created, and kept in the status from then on.
-/

set_option autoImplicit false

namespace LitellmOperator

open Effect Go Kube Ctl

inductive BudgetApi where
  | create (req : BudgetRequest)
  | update (req : BudgetRequest)
  | delete (budgetID : String)
  | get (budgetID : String)
  deriving DecidableEq

instance : Service BudgetApi where
  Result
    | .create _ => BudgetResponse
    | .get _ => Option BudgetInfo
    | _ => Unit

abbrev BudgetCtl : Type → Type := Ctl LiteLLMBudgetSpec LiteLLMBudgetStatus BudgetApi

abbrev BudgetFailure : Type := Failure LiteLLMBudgetSpec LiteLLMBudgetStatus

namespace Budget

variable (budget : LiteLLMBudget)

/-- The budget's id in LiteLLM: `spec.budgetId`, or the name of the resource. -/
def resolveBudgetID : String :=
  if budget.spec.budgetID ≠ "" then budget.spec.budgetID else budget.metadata.name

def request : BudgetRequest where
  budgetID := resolveBudgetID budget
  maxBudget := budget.spec.maxBudget
  softBudget := budget.spec.softBudget
  budgetDuration := budget.spec.budgetDuration
  tpmLimit := budget.spec.tpmLimit
  rpmLimit := budget.spec.rpmLimit
  maxParallelRequests := budget.spec.maxParallelRequests
  modelMaxBudget := budget.spec.modelMaxBudget

variable (lib : Ext)

variable (conn : ResolvedInstance)

def createBudget (budget : LiteLLMBudget) :
    ExceptT BudgetFailure BudgetCtl LiteLLMBudget := do
  let resp ← orFail (api conn (BudgetApi.create (request budget)))
    (fun e => ⟨budget, after 30, wrapf "create budget: " e⟩)
  let id := if resp.budgetID = "" then resolveBudgetID budget else resp.budgetID
  let budget := { budget with status.litellmBudgetID := id, status.synced := true }
  recordCreated "update status after create: " (fun s => lib.computeSpecHash (.budget s)) budget

def updateBudget (budget : LiteLLMBudget) : ExceptT BudgetFailure BudgetCtl LiteLLMBudget :=
  let currentHash := lib.computeSpecHash (.budget budget.spec)
  if annotationAt budget annotationSyncHash = currentHash then pure budget
  else do
    let _ ← orFail (api conn (BudgetApi.update
        { request budget with budgetID := budget.status.litellmBudgetID }))
      (fun e => ⟨budget, after 30, wrapf "update budget: " e⟩)
    let budget ← storeSyncHash budget currentHash
    pure { budget with status.synced := true }

def createOrUpdateBudget (budget : LiteLLMBudget) : ExceptT BudgetFailure BudgetCtl LiteLLMBudget :=
  if budget.status.litellmBudgetID = "" then createBudget lib conn budget
  else updateBudget lib conn budget

def withInfo (info : Except Error (Option BudgetInfo)) : LiteLLMBudget :=
  match info with
  | .ok (some info) => { budget with status.currentSpend := info.spend }
  | _ => budget

def reconcileBudget (budget : LiteLLMBudget) (resolved : ResolvedInstance) :
    Body LiteLLMBudgetSpec LiteLLMBudgetStatus BudgetApi := do
  let budget ← createOrUpdateBudget lib resolved budget
  let info ← ExceptT.lift (api resolved (BudgetApi.get budget.status.litellmBudgetID))
  pure (withInfo budget info, after 300)

def target : Option String :=
  if budget.status.litellmBudgetID ≠ "" then some budget.status.litellmBudgetID else none

/-- The budget controller has no branch for a missing enterprise license. -/
def controller : Controller LiteLLMBudgetSpec LiteLLMBudgetStatus BudgetApi where
  kind := kindBudget
  instanceRef := (·.instanceRef)
  conditions := (·.conditions)
  setConditions st cs := { st with conditions := cs }
  syncedMessage := "Budget synced to LiteLLM"
  observes := true
  enterprise := false
  target := target
  delete := .delete
  body := reconcileBudget lib

def reconcile (req : NamespacedName) : BudgetCtl (Result × Option Error) :=
  (controller lib).reconcile lib req

end Budget

end LitellmOperator
