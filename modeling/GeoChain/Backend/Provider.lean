import GeoChain.Backend.Error
import GeoChain.Backend.Response
import GeoChain.Catalog.Basic
import GeoChain.Chain.Wire
import GeoChain.Text.Shown

/-!
# Providers

A provider takes chains and lists the modules of a backend. Discovery asks for the listing and
registers the modules in a catalog; if the listing fails, or comes with a status that is not a
success, then the catalog stays as it is. Submitting a plan submits its chain to its location.
-/

namespace GeoChain

/-- What a backend does, in a monad `m` for whatever else happens meanwhile. -/
structure Provider (m : Type → Type) where
  submit : (location : String) → Chain → m (Except BackendError Response)
  list : m (Except BackendError Listing)

namespace Provider

variable {m : Type → Type} [Monad m]

def submitPlan (provider : Provider m) (plan : Plan) : m (Except BackendError Response) :=
  provider.submit plan.location plan.chain

def listingRefused (status : Nat) : BackendError :=
  (BackendError.new .externalError).withMessage
    ("module listing failed with status " ++ toString status)

/-- What a listing makes of a catalog, and how many processes it registers. -/
def registerListed (answer : Except BackendError Listing) (catalog : Catalog) :
    Except BackendError Nat × Catalog :=
  match answer with
  | .error cause => (.error cause, catalog)
  | .ok listing =>
    if listing.isSuccess then
      let (count, catalog) := catalog.importModules listing.modules
      (.ok count, catalog)
    else (.error (listingRefused listing.status), catalog)

def discover (provider : Provider m) (catalog : Catalog) :
    m (Except BackendError Nat × Catalog) := do
  return registerListed (← provider.list) catalog

/-- A provider as messages show it: its inside is not told. -/
def shown : String := Text.shownRecord "ActiniaService" [] true

end Provider

end GeoChain
