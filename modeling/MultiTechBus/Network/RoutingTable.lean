import MultiTechBus.Halt
import MultiTechBus.Library.Memo
import MultiTechBus.Network.Route
import MultiTechBus.Network.Interface

/-! # The IPv4 routing table

The table is a vector of route objects kept in the order of `routeLessThan`, with
a cache of earlier lookups that every change of the vector clears.
-/

namespace MultiTechBus.Network

open MultiTechBus.Library

/-- `Ipv4RoutingTable`, with the parameters that decide its contents. Cached
pointers stand for the objects they were stored for. -/
structure RoutingTable where
  useAdminDist : Bool := false
  /-- The interface names that the `netmaskRoutes` pattern accepts. -/
  netmaskRoutes : String → Bool := fun _ => true
  routes : List Route := []
  routingCache : Memo Ipv4Address (Option Route) := []
  /-- The identity of the next route object. -/
  nextId : Nat := 0

namespace RoutingTable

/-- The order of the vector, on route objects. -/
def Better (rt : RoutingTable) (a b : Route) : Prop :=
  RouteLT rt.useAdminDist a.toRouteData b.toRouteData

instance (rt : RoutingTable) : DecidableRel rt.Better :=
  fun a b => inferInstanceAs (Decidable (RouteLT rt.useAdminDist a.toRouteData b.toRouteData))

def invalidateCache (rt : RoutingTable) : RoutingTable := { rt with routingCache := [] }

def getNumRoutes (rt : RoutingTable) : Nat := rt.routes.length

def getRoute (rt : RoutingTable) (k : Nat) : Option Route := rt.routes[k]?

/-- The loop of `findBestMatchingRoute` over the vector. -/
def scanRoutes (routes : List Route) (dest : Ipv4Address) : Option Route :=
  routes.find? fun e => e.isValid && e.isMatch dest

/-- A cached answer counts if it is null or still valid. -/
def cacheHit : Option Route → Bool
  | none => true
  | some route => route.isValid

def findBestMatchingRoute (rt : RoutingTable) (dest : Ipv4Address) : Option Route × RoutingTable :=
  let answer := rt.routingCache.recall cacheHit (scanRoutes rt.routes) dest
  (answer.1, { rt with routingCache := answer.2 })

/-- The reverse scan over the routes with an unspecified netmask. -/
def getDefaultRoute (rt : RoutingTable) : Option Route :=
  (rt.routes.reverse.takeWhile fun e => e.isDefault).find? fun e => e.isValid

/-- `internalRemoveRoute` on the object with this identity. -/
def internalRemoveRoute (rt : RoutingTable) (id : Nat) : RoutingTable :=
  if rt.routes.any (fun e => e.id == id) then
    invalidateCache { rt with routes := rt.routes.eraseP fun e => e.id == id }
  else rt

def deleteRoute (rt : RoutingTable) (entry : Route) : RoutingTable := rt.internalRemoveRoute entry.id

/-- Insert a new object at the upper bound of its position. -/
def insertRoute (rt : RoutingTable) (data : RouteData) : RoutingTable :=
  invalidateCache
    { rt with
      routes := rt.routes.orderedInsert rt.Better { data with id := rt.nextId }
      nextId := rt.nextId + 1 }

def internalAddRoute (rt : RoutingTable) (entry : RouteData) : Except Halt RoutingTable :=
  if !Ipv4Address.isValidNetmask entry.netmask then
    .error (.cRuntimeError ("addRoute(): wrong netmask " ++ entry.netmask.str ++ " in route"))
  else if entry.netmask ≠ 0#32 ∧ entry.destination &&& entry.netmask = 0#32 then
    .error (.cRuntimeError ("addRoute(): all bits of destination address " ++ entry.destination.str ++
      " is 0 inside non zero netmask " ++ entry.netmask.str))
  else if entry.destination &&& ~~~entry.netmask ≠ 0#32 then
    .error (.cRuntimeError ("addRoute(): suspicious route: destination IP address " ++
      entry.destination.str ++ " has bits set outside netmask " ++ entry.netmask.str))
  else if entry.interface = none then
    .error (.cRuntimeError "addRoute(): interface cannot be nullptr")
  else if Ipv4Address.isUnspecified entry.netmask then
    match rt.getDefaultRoute with
    | some oldDefaultRoute => .ok ((rt.deleteRoute oldDefaultRoute).insertRoute entry)
    | none => .ok (rt.insertRoute entry)
  else .ok (rt.insertRoute entry)

def addRoute (rt : RoutingTable) (entry : RouteData) : Except Halt RoutingTable :=
  rt.internalAddRoute entry

/-- The erasing iterator loop over the unicast routes. -/
def deleteInterfaceRoutes (rt : RoutingTable) (entry : Nat) : RoutingTable :=
  if rt.routes.any (fun route => route.interface == some entry) then
    invalidateCache
      { rt with routes := rt.routes.filter fun route => route.interface != some entry }
  else rt

/-- The first loop of `updateNetmaskRoutes`: the index stays where a route was
erased. The fuel is the number of routes not yet visited. -/
def deleteNetmaskRoutes : Nat → Nat → RoutingTable → RoutingTable
  | 0, _, rt => rt
  | fuel + 1, k, rt =>
      match rt.routes[k]? with
      | none => rt
      | some route =>
          if route.isNetmaskRoute then
            deleteNetmaskRoutes fuel k (invalidateCache { rt with routes := rt.routes.eraseIdx k })
          else deleteNetmaskRoutes fuel (k + 1) rt

/-- The route that `updateNetmaskRoutes` adds for the interface at position `i`. -/
def netmaskRoute (netmaskRoutes : String → Bool) (ie : NetworkInterface) (i : Nat) :
    Option RouteData :=
  if ie.isUp && netmaskRoutes ie.fullName then
    match ie.ipv4Data with
    | some ipv4Data =>
        if ipv4Data.netmask ≠ Ipv4Address.ALLONES_ADDRESS then
          some
            { sourceType := .IFACENETMASK
              destination := ipv4Data.inetAddr &&& ipv4Data.netmask
              netmask := ipv4Data.netmask
              gateway := Ipv4Address.UNSPECIFIED_ADDRESS
              adminDist := dDirectlyConnected
              metric := ipv4Data.metric
              interface := some i }
        else none
    | none => none
  else none

/-- The second loop of `updateNetmaskRoutes`, over the interfaces in order. -/
def addNetmaskRoutes (rt : RoutingTable) (ift : InterfaceTable) : RoutingTable :=
  (ift.zipIdx.filterMap fun entry => netmaskRoute rt.netmaskRoutes entry.1 entry.2).foldl
    insertRoute rt

def updateNetmaskRoutes (rt : RoutingTable) (ift : InterfaceTable) : RoutingTable :=
  addNetmaskRoutes (deleteNetmaskRoutes rt.getNumRoutes 0 rt) ift

/-- `receiveSignal` for `interfaceStateChangedSignal`. -/
def interfaceStateChanged (rt : RoutingTable) (ift : InterfaceTable) (entry : Nat)
    (fieldId : FieldId) : RoutingTable :=
  let rt := rt.invalidateCache
  if fieldId = .F_STATE ∨ fieldId = .F_CARRIER then
    let rt := rt.updateNetmaskRoutes ift
    let rt :=
      match ift[entry]? with
      | some ie => if !ie.isUp then rt.deleteInterfaceRoutes entry else rt
      | none => rt
    rt.invalidateCache
  else rt

end RoutingTable

end MultiTechBus.Network
