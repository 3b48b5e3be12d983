import OlympusMetrics.Indexer.PricingOrder
import OlympusMetrics.Indexer.QuoteSelection
import OlympusMetrics.Library.KeyedSharing

/-!
Pricing calls that run concurrently in one pricing cache.
-/

namespace OlympusMetrics.Pricing

open Lookup

/-! ### Every call settles -/

section

variable (ctx : PricingContext)

/-- The handlers that a call is given. -/
def handlersOf : PricingKey → List LiquidityHandler
  | .price _ _ => []
  | .totalValue handler _ => [handler]
  | .unitPrice handler => [handler]

/-- The handlers of the configuration and of the calls. -/
def handlersInScope (calls : List PricingKey) : List LiquidityHandler :=
  ctx.config.liquidityHandlers ++ calls.flatMap handlersOf

/-- The keys that the calls can ask for. -/
def keysInScope (calls : List PricingKey) : List PricingKey :=
  calls ++ askedKeys ctx (handlersInScope ctx calls)

variable {ctx}

theorem askedKeys_mono {handlers handlers' : List LiquidityHandler} (h : handlers ⊆ handlers') :
    askedKeys ctx handlers ⊆ askedKeys ctx handlers' := by
  intro key hkey
  obtain ⟨handler, hmem, hkey⟩ := List.mem_flatMap.mp hkey
  exact List.mem_flatMap.mpr ⟨handler, h hmem, hkey⟩

/-- The bodies of lookups in scope ask for keys in scope. -/
theorem within_keysInScope (calls : List PricingKey) :
    ∀ key ∈ keysInScope ctx calls,
      (pricingLookup ctx key).Within (fun _ => True) (· ∈ keysInScope ctx calls) := by
  have hprice (token : String) (currentPool : Option String) :
      (pricingLookup ctx (.price token currentPool)).Within (fun _ => True)
        (· ∈ keysInScope ctx calls) := by
    refine (within_price ctx token currentPool).mono (fun _ _ => trivial) (fun key hkey => ?_)
    exact List.mem_append_right _ (askedKeys_mono (List.subset_append_left _ _) hkey)
  have hhandler {α : Type} {handler : LiquidityHandler} {p : PricingProg α}
      (hmem : handler ∈ handlersInScope ctx calls)
      (hp : p.Within (ReadBy handler) (AskedBy ctx handler)) :
      p.Within (fun _ => True) (· ∈ keysInScope ctx calls) := by
    refine (within_of_handler ctx hmem hp).mono (fun _ _ => trivial) (fun key hkey => ?_)
    exact List.mem_append_right _ hkey
  intro key hkey
  rcases List.mem_append.mp hkey with hkey | hkey
  · cases key with
    | price token currentPool => exact hprice token currentPool
    | totalValue handler excludedTokens =>
        have hmem : handler ∈ handlersInScope ctx calls :=
          List.mem_append_right _ (List.mem_flatMap.mpr ⟨_, hkey, List.mem_cons_self⟩)
        exact (hhandler hmem (within_handlerGetTotalValue ctx handler excludedTokens)).bind
          (fun _ => trivial)
    | unitPrice handler =>
        have hmem : handler ∈ handlersInScope ctx calls :=
          List.mem_append_right _ (List.mem_flatMap.mpr ⟨_, hkey, List.mem_cons_self⟩)
        exact (hhandler hmem (within_handlerGetUnitPrice ctx handler)).bind (fun _ => trivial)
  · obtain ⟨token, currentPool, rfl⟩ := exists_of_mem_askedKeys hkey
    exact hprice token currentPool

end

/-- All calls of a pricing cache settle, in every interleaving and whichever reads throw, and leave
no key in flight and no rejected promise cached. -/
theorem pricing_settlesCleanly (ctx : PricingContext) (ledger : LedgerKey → Option ℤ)
    (calls : List PricingKey) :
    SettlesCleanly (pricingService ctx ledger) (fun i : Fin calls.length => calls.get i) :=
  settlesCleanly (within_keysInScope calls)
    (fun i => List.mem_append_left _ (List.get_mem calls i))

/-! ### Concurrent prices -/

section

variable (ctx : PricingContext) (ledger : LedgerKey → Option ℤ)

/-- The keys of the calls, in their order. -/
def callKey (calls : List PriceCall) (i : Fin calls.length) : PricingKey := (calls.get i).key ctx

end

end OlympusMetrics.Pricing
