import MarketQuery.Catalog.Histories
import MarketQuery.Catalog.Reports
import MarketQuery.Catalog.Snapshots
import MarketQuery.Registry

/-!
# The catalog

* `Catalog.signatures`: the signatures of all functions in the order of their names;
* `Catalog.functions`: the functions on a provider, in the same order;
* `Catalog.registry`: they can be called by their names;
* `signatures_registry`: the registry of any provider lists the signatures of the catalog.
-/

namespace MarketQuery.Catalog

/-- The signatures of all functions in the order of their names. -/
def signatures : List Signature :=
  [fundHistorySignature, fundSnapshotSignature, indexHistorySignature, consumerPricesSignature,
   producerPricesSignature, stockFactsSignature, stockHistorySignature, stockSnapshotSignature]

/-- All functions on a provider. -/
def functions (p : Provider) : List QueryFunction :=
  [fundHistory p, fundSnapshot p, indexHistory p, consumerPrices p, producerPrices p, stockFacts p,
   stockHistory p, stockSnapshot p]

theorem map_signature_functions (p : Provider) :
    (functions p).map (·.signature) = signatures := rfl

theorem pairwise_signatures : signatures.Pairwise fun s t => s.name < t.name := by decide

/-- The registry of all functions on a provider. -/
def registry (p : Provider) : Registry where
  functions := functions p
  ordered := by
    have h := pairwise_signatures
    rw [← map_signature_functions p, List.pairwise_map] at h
    exact h

/-- A registry lists the signatures of the catalog. -/
theorem signatures_registry (p : Provider) : (registry p).signatures = signatures :=
  map_signature_functions p

end MarketQuery.Catalog
