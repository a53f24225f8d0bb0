import StbEbpf.Lib.Slots
import StbEbpf.Probe.Common

/-!
The anomaly detector of `src/anomaly.c`. The arrays are lists of the entries in use, so that a count is a length;
entries are appended and never given up.
-/

namespace StbEbpf.Probe
open CText

def ANOMALY_NONE : UInt8 := 0
def ANOMALY_SPIKE : UInt8 := 1
def ANOMALY_SCAN : UInt8 := 2
def ANOMALY_DROP : UInt8 := 3

structure SrcStats where
  srcIp : UInt32
  uniquePorts : List UInt16 := []
  lastSeenNs : UInt64 := 0
  active : Bool := true
  deriving DecidableEq, Repr

structure BwRecord where
  key : FlowKey
  lastBytes : UInt64 := 0
  lastTimeNs : UInt64 := 0
  active : Bool := true
  deriving DecidableEq, Repr

structure AnomalyDetector where
  sources : List SrcStats := []
  bwRecords : List BwRecord := []
  spikeThresholdBps : UInt64 := 100000000
  scanPortThreshold : Nat := 20
  spikeCount : Int32 := 0
  scanCount : Int32 := 0
  dropCount : Int32 := 0

def anomalyDetectorCreate : AnomalyDetector := {}

/-- Finds an entry of a table or appends one; `none` when the table is full. -/
def findOrAppend {α κ : Type} [DecidableEq κ] (active : α → Bool) (key : α → κ) (size : Nat) (new : κ → α)
    (entries : List α) (k : κ) : Option Nat × List α :=
  match Slots.lookup active key entries k with
  | some i => (some i, entries)
  | none => if entries.length < size then (some entries.length, entries ++ [new k]) else (none, entries)

def findSrc (ad : AnomalyDetector) (srcIp : UInt32) : Option Nat × AnomalyDetector :=
  let (found, sources) := findOrAppend SrcStats.active SrcStats.srcIp 1024 (fun srcIp => { srcIp }) ad.sources srcIp
  (found, { ad with sources })

def SrcStats.portSeen (src : SrcStats) (port : UInt16) : Bool := (src.uniquePorts.take 256).contains port

def SrcStats.addPort (src : SrcStats) (port : UInt16) (ts : UInt64) : SrcStats :=
  { src with
    uniquePorts := if src.uniquePorts.length < 256 then src.uniquePorts ++ [port] else src.uniquePorts
    lastSeenNs := ts }

def findBw (ad : AnomalyDetector) (key : FlowKey) : Option Nat × AnomalyDetector :=
  let (found, bwRecords) := findOrAppend BwRecord.active BwRecord.key 2048 (fun key => { key }) ad.bwRecords key
  (found, { ad with bwRecords })

structure AnomalyCheck where
  verdict : UInt8
  flow : FlowEvent
  ad : AnomalyDetector

/-- Port scan detection; `none` when the check goes on. -/
def checkScan (ad : AnomalyDetector) (ts : UInt64) (flow : FlowEvent) : AnomalyDetector × Option AnomalyCheck :=
  match findSrc ad flow.srcIp with
  | (none, ad) => (ad, none)
  | (some i, ad) =>
    match ad.sources[i]? with
    | none => (ad, none)
    | some src =>
      if ¬ src.portSeen flow.dstPort ∧ flow.dstPort > 0 then
        let src := src.addPort flow.dstPort ts
        let ad := { ad with sources := ad.sources.set i src }
        if src.uniquePorts.length ≥ ad.scanPortThreshold then
          (ad, some
            { verdict := ANOMALY_SCAN
              flow := { flow with anomaly := ANOMALY_SCAN, tags := .strncpy (ascii "anomaly,port_scan") }
              ad := { ad with scanCount := ad.scanCount + 1 } })
        else (ad, none)
      else (ad, none)

def FlowEvent.bandwidthKey (flow : FlowEvent) : FlowKey where
  srcIp := flow.srcIp
  dstIp := flow.dstIp
  srcPort := flow.srcPort
  dstPort := flow.dstPort
  protocol := 0

/-- The rate of the bytes recorded so far, if there is one to be told. -/
def BwRecord.rate (bw : BwRecord) (ts : UInt64) : Option UInt64 :=
  let dtNs := ts - bw.lastTimeNs
  if dtNs > 0 ∧ bw.lastTimeNs > 0 ∧ bw.lastBytes > 0 then some (bw.lastBytes * 8 * 1000000000 / dtNs) else none

def BwRecord.add (bw : BwRecord) (bytes ts : UInt64) : BwRecord :=
  { bw with lastBytes := bw.lastBytes + bytes, lastTimeNs := ts }

/-- Traffic spike detection. A spike leaves the record as it is. -/
def checkSpike (ad : AnomalyDetector) (ts : UInt64) (flow : FlowEvent) :
    AnomalyDetector × FlowEvent × Option AnomalyCheck :=
  match findBw ad flow.bandwidthKey with
  | (none, ad) => (ad, flow, none)
  | (some i, ad) =>
    match ad.bwRecords[i]? with
    | none => (ad, flow, none)
    | some bw =>
      let added := { ad with bwRecords := ad.bwRecords.set i (bw.add flow.bytes ts) }
      match bw.rate ts with
      | none => (added, flow, none)
      | some bps =>
        let flow := { flow with bandwidthBps := bps }
        if bps > ad.spikeThresholdBps then
          (ad, flow, some
            { verdict := ANOMALY_SPIKE
              flow := { flow with
                anomaly := ANOMALY_SPIKE
                details := .snprintf (ascii "bandwidth spike: " ++ decimal bps.toNat ++ ascii " bps")
                tags := .strncpy (ascii "anomaly,spike") }
              ad := { ad with spikeCount := ad.spikeCount + 1 } })
        else (added, flow, none)

def checkReset (ad : AnomalyDetector) (flow : FlowEvent) : AnomalyCheck :=
  if flow.tcpFlags &&& TCP_FLAG_RST ≠ 0 then
    { verdict := ANOMALY_DROP
      flow := { flow with anomaly := ANOMALY_DROP, tags := .strncpy (ascii "anomaly,rst") }
      ad := { ad with dropCount := ad.dropCount + 1 } }
  else { verdict := ANOMALY_NONE, flow, ad }

def anomalyCheckFlow (ad : AnomalyDetector) (ts : UInt64) (flow : FlowEvent) : AnomalyCheck :=
  match checkScan ad ts flow with
  | (_, some found) => found
  | (ad, none) =>
    match checkSpike ad ts flow with
    | (_, _, some found) => found
    | (ad, flow, none) => checkReset ad flow

end StbEbpf.Probe
