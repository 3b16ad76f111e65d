import LitellmOperator.Controller.Reconcile

/-! # The LiteLLMCustomer controller

`litellmcustomer_controller.go`. A customer's id in LiteLLM is `spec.customerId`. The status keeps
no id: the resource is bound when `status.synced` is set, to whatever the spec says.
-/

set_option autoImplicit false

namespace LitellmOperator

open Effect Go Kube Ctl

inductive CustomerApi where
  | create (req : CustomerCreateRequest)
  | update (req : CustomerUpdateRequest)
  | delete (customerID : String)
  | get (customerID : String)
  deriving DecidableEq

instance : Service CustomerApi where
  Result
    | .delete _ => Unit
    | _ => CustomerInfo

abbrev CustomerCtl : Type → Type := Ctl LiteLLMCustomerSpec LiteLLMCustomerStatus CustomerApi

abbrev CustomerFailure : Type := Failure LiteLLMCustomerSpec LiteLLMCustomerStatus

namespace Customer

variable (customer : LiteLLMCustomer)

def createRequest : CustomerCreateRequest where
  userID := customer.spec.customerID
  aliasName := customer.spec.aliasName
  maxBudget := customer.spec.maxBudget
  budgetDuration := customer.spec.budgetDuration
  budgetID := customer.spec.budgetID
  tpmLimit := customer.spec.tpmLimit
  rpmLimit := customer.spec.rpmLimit
  allowedModelRegion := customer.spec.allowedModelRegion
  defaultModel := customer.spec.defaultModel
  models := customer.spec.models
  blocked := customer.spec.blocked
  objectPermission := mapObjectPermission customer.spec.objectPermission
  metadata := customer.spec.metadata

def updateRequest : CustomerUpdateRequest where
  userID := customer.spec.customerID
  aliasName := customer.spec.aliasName
  maxBudget := customer.spec.maxBudget
  budgetDuration := customer.spec.budgetDuration
  budgetID := customer.spec.budgetID
  tpmLimit := customer.spec.tpmLimit
  rpmLimit := customer.spec.rpmLimit
  allowedModelRegion := customer.spec.allowedModelRegion
  defaultModel := customer.spec.defaultModel
  models := customer.spec.models
  blocked := customer.spec.blocked
  objectPermission := mapObjectPermission customer.spec.objectPermission
  metadata := customer.spec.metadata

variable (lib : Ext)

variable (conn : ResolvedInstance)

def createCustomer (customer : LiteLLMCustomer) :
    ExceptT CustomerFailure CustomerCtl LiteLLMCustomer := do
  let _ ← orFail (api conn (CustomerApi.create (createRequest customer)))
    (fun e => ⟨customer, after 30, wrapf "create customer: " e⟩)
  let customer := { customer with status.synced := true }
  recordCreated "update status after create: " (fun s => lib.computeSpecHash (.customer s)) customer

/-- Unlike the other kinds' updates, this one does not touch the status. -/
def updateCustomer (customer : LiteLLMCustomer) :
    ExceptT CustomerFailure CustomerCtl LiteLLMCustomer :=
  let currentHash := lib.computeSpecHash (.customer customer.spec)
  if annotationAt customer annotationSyncHash = currentHash then pure customer
  else do
    let _ ← orFail (api conn (CustomerApi.update (updateRequest customer)))
      (fun e => ⟨customer, after 30, wrapf "update customer: " e⟩)
    storeSyncHash customer currentHash

def createOrUpdateCustomer (customer : LiteLLMCustomer) :
    ExceptT CustomerFailure CustomerCtl LiteLLMCustomer :=
  if customer.status.synced then updateCustomer lib conn customer
  else createCustomer lib conn customer

def withInfo (info : Except Error CustomerInfo) : LiteLLMCustomer :=
  match info with
  | .ok info => { customer with status.currentSpend := info.spend, status.blocked := info.blocked }
  | .error _ => customer

def reconcileCustomer (customer : LiteLLMCustomer) (resolved : ResolvedInstance) :
    Body LiteLLMCustomerSpec LiteLLMCustomerStatus CustomerApi := do
  let customer ← createOrUpdateCustomer lib resolved customer
  let info ← ExceptT.lift (api resolved (CustomerApi.get customer.spec.customerID))
  pure (withInfo customer info, after 300)

def target : Option String :=
  if customer.status.synced then some customer.spec.customerID else none

def controller : Controller LiteLLMCustomerSpec LiteLLMCustomerStatus CustomerApi where
  kind := kindCustomer
  instanceRef := (·.instanceRef)
  conditions := (·.conditions)
  setConditions st cs := { st with conditions := cs }
  syncedMessage := "Customer synced to LiteLLM"
  observes := true
  enterprise := true
  target := target
  delete := .delete
  body := reconcileCustomer lib

def reconcile (req : NamespacedName) : CustomerCtl (Result × Option Error) :=
  (controller lib).reconcile lib req

end Customer

end LitellmOperator
