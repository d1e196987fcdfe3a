/-! # Management frames and primitives

The frames that stations and access points exchange, and the primitives that an
agent and a management entity exchange inside a station.
-/

namespace MultiTechBus.Ieee80211

abbrev MacAddress := BitVec 48

namespace MacAddress

def UNSPECIFIED_ADDRESS : MacAddress := 0#48

def BROADCAST_ADDRESS : MacAddress := 0xffffffffffff#48

def isUnspecified (address : MacAddress) : Bool := address == 0#48

/-- `"%2.2X"`. -/
def hexByte (n : Nat) : String :=
  let digits := (Nat.toDigits 16 n).map Char.toUpper
  String.ofList (if digits.length < 2 then '0' :: digits else digits)

/-- Six bytes in hexadecimal, joined by dashes. -/
def str (address : MacAddress) : String :=
  "-".intercalate <| [5, 4, 3, 2, 1, 0].map fun i => hexByte (address.toNat / Nat.pow 256 i % 256)

end MacAddress

/-- Simulation times and durations, in ticks. -/
abbrev SimTime := Nat

/-- The status codes that the modelled code uses; a frame may carry any number. -/
def SC_SUCCESSFUL : Int := 0
def SC_AUTH_OUT_OF_SEQ : Int := 14

/-- The status code of a frame body that nobody set. -/
def statusCodeUnset : Int := -1

/-- The reason code that the access point uses. -/
def RC_NONAUTH_ASS_REQUEST : Int := 9

/-- `Ieee80211PrimResultCode`. -/
inductive PrimResultCode
  | PRC_SUCCESS | PRC_INVALID_PARAMETERS | PRC_TIMEOUT | PRC_TOO_MANY_SIMULTANEOUS_REQUESTS
  | PRC_REFUSED
deriving DecidableEq, Repr

/-! ## Frames -/

structure BeaconBody where
  SSID : String
  beaconInterval : SimTime
  channelNumber : Int
deriving DecidableEq, Repr

inductive FrameBody
  | authentication (sequenceNumber : BitVec 16) (statusCode : Int) (isLast : Bool)
  | deauthentication (reasonCode : Int)
  | associationRequest
  | associationResponse (statusCode : Int)
  | reassociationRequest
  | reassociationResponse (statusCode : Int)
  | disassociation (reasonCode : Int)
  | beacon (body : BeaconBody)
  | probeRequest (SSID : String)
  | probeResponse (body : BeaconBody)
deriving DecidableEq, Repr

/-- A received management frame: the header fields that are read, the body, and
the power of the signal it came with. -/
structure MgmtFrame where
  transmitterAddress : MacAddress
  address3 : MacAddress
  body : FrameBody
  signalPower : Rat := 0
deriving DecidableEq, Repr

/-! ## Primitives -/

/-- `Ieee80211BssType`. -/
inductive BssType
  | BSSTYPE_ANY | BSSTYPE_INFRASTRUCTURE | BSSTYPE_INDEPENDENT
deriving DecidableEq, Repr

/-- `Ieee80211Prim_ScanRequest`. -/
structure ScanRequest where
  BSSType : BssType
  BSSID : MacAddress := MacAddress.UNSPECIFIED_ADDRESS
  SSID : String := ""
  activeScan : Bool
  probeDelay : SimTime
  channelList : List Int
  minChannelTime : SimTime
  maxChannelTime : SimTime
deriving DecidableEq, Repr

/-- `Ieee80211Prim_BssDescription`. -/
structure BssDescription where
  channelNumber : Int
  BSSID : MacAddress
  SSID : String
  beaconInterval : SimTime
  rxPower : Rat
deriving DecidableEq, Repr

inductive Request
  | scan (req : ScanRequest)
  | authenticate (address : MacAddress) (timeout : SimTime)
  | deauthenticate (address : MacAddress) (reasonCode : Int)
  | associate (address : MacAddress) (timeout : SimTime)
  | reassociate (address : MacAddress) (timeout : SimTime)
  | disassociate (address : MacAddress) (reasonCode : Int)
deriving DecidableEq, Repr

inductive Confirm
  | scan (resultCode : PrimResultCode) (bssList : List BssDescription)
  | authenticate (resultCode : PrimResultCode) (address : MacAddress)
  | associate (resultCode : PrimResultCode) (address : MacAddress)
  | reassociate (resultCode : PrimResultCode) (address : MacAddress)
  | unrecognized (className : String)
deriving DecidableEq, Repr

end MultiTechBus.Ieee80211
