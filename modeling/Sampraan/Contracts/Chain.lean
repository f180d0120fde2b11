import Sampraan.Contracts.AssetLifecycle
import Sampraan.Contracts.IdentityLifecycle

/-! The three contracts together, each call of a registry seeing the others as they are. -/

namespace Sampraan.Contracts

open Library

structure Chain where
  accessControl : SampraanAccessControl
  identityRegistry : SampraanIdentityRegistry
  assetRegistry : SampraanAssetRegistry

namespace Chain

inductive Call where
  | accessControl (call : SampraanAccessControl.Call)
  | identityRegistry (call : SampraanIdentityRegistry.Call)
  | assetRegistry (call : SampraanAssetRegistry.Call)
  deriving DecidableEq

def deploy (accessControl : SampraanAccessControl) : Chain where
  accessControl := accessControl
  identityRegistry := .deploy
  assetRegistry := .deploy

def view (s : Chain) : View where
  roles := s.accessControl.hasRole
  isActive := s.identityRegistry.isActive

def run (governance : Address) (msg : Msg) (s : Chain) : Call → Result Chain
  | .accessControl call => do
    let accessControl ← SampraanAccessControl.run msg call s.accessControl
    pure { s with accessControl := accessControl }
  | .identityRegistry call => do
    let identityRegistry ← SampraanIdentityRegistry.run governance s.accessControl.hasRole msg
      s.identityRegistry call
    pure { s with identityRegistry := identityRegistry }
  | .assetRegistry call => do
    let assetRegistry ← SampraanAssetRegistry.run governance s.view msg s.assetRegistry call
    pure { s with assetRegistry := assetRegistry }

def machine (governance : Address) : Machine (Msg × Call) Chain Revert where
  run k s := run governance k.1 s k.2

variable {governance : Address} {msg : Msg} {s t : Chain} {C : Msg × Call → Chain → Prop}
  {accessControl : SampraanAccessControl} {log : List ((Msg × Call) × Chain × Chain)}

def Call.Does (governance : Address) (msg : Msg) (s t : Chain) : Call → Prop
  | .accessControl call => SampraanAccessControl.run msg call s.accessControl = .ok t.accessControl ∧
      t.identityRegistry = s.identityRegistry ∧ t.assetRegistry = s.assetRegistry
  | .identityRegistry call =>
    SampraanIdentityRegistry.run governance s.accessControl.hasRole msg s.identityRegistry call =
        .ok t.identityRegistry ∧
      t.accessControl = s.accessControl ∧ t.assetRegistry = s.assetRegistry
  | .assetRegistry call =>
    SampraanAssetRegistry.run governance s.view msg s.assetRegistry call = .ok t.assetRegistry ∧
      t.accessControl = s.accessControl ∧ t.identityRegistry = s.identityRegistry

theorem run_does {call : Call} (h : run governance msg s call = .ok t) :
    call.Does governance msg s t := by
  cases call with
  | accessControl call =>
    obtain ⟨a, hrun, h⟩ := bind_eq_ok.mp h
    obtain rfl := pure_eq_ok.mp h
    exact ⟨hrun, rfl, rfl⟩
  | identityRegistry call =>
    obtain ⟨a, hrun, h⟩ := bind_eq_ok.mp h
    obtain rfl := pure_eq_ok.mp h
    exact ⟨hrun, rfl, rfl⟩
  | assetRegistry call =>
    obtain ⟨a, hrun, h⟩ := bind_eq_ok.mp h
    obtain rfl := pure_eq_ok.mp h
    exact ⟨hrun, rfl, rfl⟩

def assetCall (k : Msg × Call) (s : Chain) : Option (View × Msg × SampraanAssetRegistry.Call) :=
  match k.2 with
  | .assetRegistry call => some (s.view, k.1, call)
  | _ => none

/-- The runs of the chain are runs of the asset registry. -/
theorem assetRegistry_run (hr : (machine governance).Run C (deploy accessControl) log s) :
    (SampraanAssetRegistry.machine governance).Run (fun _ _ => True) .deploy
      (Machine.project assetRegistry assetCall log) s.assetRegistry := by
  refine hr.project (f := assetRegistry) fun ⟨msg, call⟩ s t _ ht => ?_
  have hdoes := run_does ht
  cases call with
  | accessControl call => exact .inl ⟨rfl, hdoes.2.2⟩
  | identityRegistry call => exact .inl ⟨rfl, hdoes.2.2⟩
  | assetRegistry call => exact .inr ⟨_, rfl, trivial, hdoes.1⟩

end Chain

end Sampraan.Contracts
