import WifiSelection.Network
import WifiSelection.Scan

/-!
The store of configured networks. Networks are held in ascending order of their configuration keys,
one for each key. The store also logs what is done to it, and can be told to refuse.
-/

namespace WifiSelection

structure NetworkStore where
  /-- Strictly ascending by configuration key. -/
  networks : List Network
  nextId : Int32
  /-- SSIDs of session networks that the user deleted. -/
  forgottenSsids : List String
  /-- Ids that stay disabled when they are tried. -/
  refusedIds : List Int32
  refusesAdding : Bool
  refusesEnabling : Bool
  added : List (Int32 × App)
  scanResults : List (Int32 × String)
  enableAttempts : List Int32
deriving DecidableEq, Repr

namespace NetworkStore

def empty : NetworkStore where
  networks := []
  nextId := 0
  forgottenSsids := []
  refusedIds := []
  refusesAdding := false
  refusesEnabling := false
  added := []
  scanResults := []
  enableAttempts := []

instance : Inhabited NetworkStore := ⟨empty⟩

/-- Puts a network in its place among networks in key order, instead of one with its key. -/
def place (network : Network) : List Network → List Network
  | [] => [network]
  | head :: tail =>
    if network.storeKey < head.storeKey then
      network :: head :: tail
    else if network.storeKey = head.storeKey then
      network :: tail
    else
      head :: place network tail

def numbered (store : NetworkStore) (network : Network) : Network :=
  if network.hasId then network else { network with id := store.nextId }

/-- Stores a network and tells its id. The next id stays above every id given, as far as 32 bits
allow. -/
def insert (store : NetworkStore) (network : Network) : Int32 × NetworkStore :=
  let network := store.numbered network
  (network.id,
    { store with
      networks := place network store.networks
      nextId := max store.nextId (network.id + 1) })

def get? (store : NetworkStore) (storeKey : String) : Option Network :=
  store.networks.find? fun network => network.storeKey = storeKey

def withId? (store : NetworkStore) (id : Int32) : Option Network :=
  store.networks.find? fun network => network.id = id

def setStatus (status : NetworkStatus) (id : Int32) : List Network → List Network
  | [] => []
  | head :: tail =>
    if head.id = id then
      { head with status := status } :: tail
    else
      head :: setStatus status id tail

def enableStored (store : NetworkStore) (id : Int32) : Bool × NetworkStore :=
  match store.withId? id with
  | some _ => (true, { store with networks := setStatus .enabled id store.networks })
  | none => (false, store)

def save (store : NetworkStore) (network : Network) (creator : App) :
    Option Int32 × NetworkStore :=
  if store.refusesAdding then
    (none, store)
  else
    let id := ((store.get? network.storeKey).map Network.id).getD Network.noId
    let (id, store) := store.insert { network with id := id, creator := creator }
    (some id, { store with added := store.added ++ [(id, creator)] })

def reenable (store : NetworkStore) (id : Int32) : Bool × NetworkStore :=
  let store := { store with enableAttempts := store.enableAttempts ++ [id] }
  if store.refusedIds.contains id then (false, store) else store.enableStored id

def enable (store : NetworkStore) (id : Int32) : Bool × NetworkStore :=
  if store.refusesEnabling then (false, store) else store.enableStored id

def noteScan (store : NetworkStore) (id : Int32) (scan : Scan) : NetworkStore :=
  { store with scanResults := store.scanResults ++ [(id, scan.bssid)] }

def isForgotten (store : NetworkStore) (ssid : String) : Bool :=
  store.forgottenSsids.contains ssid

/-- Makes sure that a network is stored and enabled, and gives the stored copy. A network stored
already is enabled if need be; a new one is added for its creator. There is no copy when the store
refuses any of this. -/
def ensureReady (store : NetworkStore) (network : Network) (creator : App) :
    Option Network × NetworkStore :=
  match store.get? network.storeKey with
  | some stored =>
    if stored.isEnabled then
      (some stored, store)
    else
      let (enabled, store) := store.reenable stored.id
      (if enabled then some { stored with status := .enabled } else none, store)
  | none =>
    match store.save network creator with
    | (none, store) => (none, store)
    | (some id, store) =>
      let (enabled, store) := store.enable id
      (if enabled then
        some { network with id := id, creator := creator, status := .enabled }
      else
        none, store)

end NetworkStore

end WifiSelection
