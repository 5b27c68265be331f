import Clight.Ctx

/-! The properties of the state that INTERFACE exposes on the bus, and the topics that make it
signal their changes (interface.c and topics.c). -/
namespace Clight

/-- The properties of clight_vtable that emit a change. -/
inductive Property
  | sunrise | sunset | nextEvent | dayTime | inEvent | displayState | acState | lidState | inhibited
  | pmInhibited | sensorAvail | blPct | kbdPct | ambientBr | screenBr | temp | location | suspended
  deriving DecidableEq

namespace Property

def name : Property → String
  | sunrise => "Sunrise"
  | sunset => "Sunset"
  | nextEvent => "NextEvent"
  | dayTime => "DayTime"
  | inEvent => "InEvent"
  | displayState => "DisplayState"
  | acState => "AcState"
  | lidState => "LidState"
  | inhibited => "Inhibited"
  | pmInhibited => "PmInhibited"
  | sensorAvail => "SensorAvail"
  | blPct => "BlPct"
  | kbdPct => "KbdPct"
  | ambientBr => "AmbientBr"
  | screenBr => "ScreenBr"
  | temp => "Temp"
  | location => "Location"
  | suspended => "Suspended"

def all : List Property := [sunrise, sunset, nextEvent, dayTime, inEvent, displayState, acState,
  lidState, inhibited, pmInhibited, sensorAvail, blPct, kbdPct, ambientBr, screenBr, temp, location,
  suspended]

def Val : Property → Type
  | sunrise | sunset | temp => ℤ
  | nextEvent => Option DayEvent
  | dayTime => Option DayState
  | inEvent | inhibited | pmInhibited | suspended => Bool
  | displayState => DisplayState
  | acState => Option AcState
  | lidState => Option LidState
  | sensorAvail => Option Bool
  | blPct | kbdPct | ambientBr | screenBr => ℚ
  | location => Loc

/-- The field of the state at the offset of the property; `pm` is state.pm_inhibited. -/
def get (st : State) (pm : Bool) : (p : Property) → p.Val
  | sunrise => st.dayEvents .sunrise
  | sunset => st.dayEvents .sunset
  | nextEvent => st.nextEvent
  | dayTime => st.dayTime
  | inEvent => st.inEvent
  | displayState => st.displayState
  | acState => st.acState
  | lidState => st.lidState
  | inhibited => st.inhibited
  | pmInhibited => pm
  | sensorAvail => st.sensAvail
  | blPct => st.currentBlPct
  | kbdPct => st.currentKbdPct
  | ambientBr => st.ambientBr
  | screenBr => st.screenBr
  | temp => st.currentTemp
  | location => st.currentLoc
  | suspended => st.suspended

/-- Values that a property is reset to in silence: DAYTIME forgets the sunset until its timer
computes the next one, and a pause of SCREEN its brightness. -/
def Reset : (p : Property) → p.Val → Prop
  | sunset, t => t = (0 : ℤ)
  | screenBr, br => br = (0 : ℚ)
  | _, _ => False

/-- sd_bus_emit_properties_changed finds the property by the name of the topic. -/
def ofTopic (topic : String) : Option Property := all.find? fun p => p.name = topic

end Property

/-- topics.c. System messages and descriptors have no topic. -/
def Msg.topic : Msg → Option String
  | .systemUpd _ | .fdUpd _ => none
  | .locUpd _ => some "Location"
  | .upowerUpd _ _ => some "AcState"
  | .inhibitUpd _ _ => some "Inhibited"
  | .displayUpd _ _ => some "DisplayState"
  | .daytimeUpd _ _ => some "DayTime"
  | .inEventUpd _ _ => some "InEvent"
  | .sunriseUpd _ _ => some "Sunrise"
  | .sunsetUpd _ _ => some "Sunset"
  | .tempUpd _ _ => some "Temp"
  | .ambientBrUpd _ _ => some "AmbientBr"
  | .blUpd _ _ => some "BlPct"
  | .kbdBlUpd _ _ => some "KbdPct"
  | .inhibitReq _ _ | .inhibitReqStatic => some "ReqInhibit"
  | .sunriseReq _ => some "ReqSunrise"
  | .sunsetReq _ => some "ReqSunset"
  | .tempReq _ _ => some "ReqTemp"
  | .blReq _ | .blReqStatic | .blReqDimmer => some "ReqBl"
  | .kbdBlReq _ | .kbdBlReqStatic => some "ReqKbdBl"
  | .dimmerToReq _ => some "ReqDimmerTo"
  | .dpmsToReq _ => some "ReqDpmsTo"
  | .scrToReq _ => some "ReqScrTo"
  | .blToReq _ => some "ReqBlTo"
  | .captureReq _ _ | .captureReqStatic => some "ReqCapture"
  | .curveReq _ => some "ReqCurve"
  | .noAutocalibReq _ => some "ReqAutocalib"
  | .contribReq _ => some "ReqContrib"
  | .simulateReq => some "ReqSimulate"
  | .lidUpd _ _ => some "LidState"
  | .lidReq _ | .lidReqStatic => some "ReqLid"
  | .sensUpd _ _ => some "SensorAvail"
  | .nextDayevtUpd _ _ => some "NextEvent"
  | .suspendUpd _ _ => some "Suspended"
  | .suspendReq _ _ => some "ReqSuspend"
  | .kbdToReq _ => some "ReqKbdTo"
  | .ambGammaReq _ => some "ReqAmbGamma"
  | .kbdCurveReq _ => some "ReqKbdCurve"
  | .screenBrUpd _ _ => some "ScreenBr"
  | .noAutocalibUpd _ => some "AutocalibUpd"
  | .displayReq _ _ => some "ReqDisplay"
  | .upowerReq _ | .upowerReqStatic => some "ReqAcState"

namespace Interface

/-- m_subscribe("^[^Req].*"): a set of characters, not a prefix. -/
def subscribed (topic : String) : Bool :=
  match topic.toList with
  | [] => false
  | c :: _ => c ∉ ['R', 'e', 'q']

end Interface

namespace Property

/-- The set excludes no more than the requests: INTERFACE hears of every property. -/
theorem subscribed_name (p : Property) : Interface.subscribed p.name = true := by
  cases p <;> decide

theorem ofTopic_name (p : Property) : ofTopic p.name = some p := by
  cases p <;> decide

end Property

/-! ### Code that tells of what it writes -/

/-- `c'` comes from `c` by code that publishes the update of every property it writes, unless it
leaves a value that `Q` exempts. -/
structure Tracks {L K : Type} (Q : (p : Property) → p.Val → Prop) (c c' : Ctx L K) : Prop where
  grows : ∀ m ∈ c.out, m ∈ c'.out
  told : ∀ (p : Property) (pm : Bool), p.get c'.st pm = p.get c.st pm ∨
    (∃ m ∈ c'.out, m.topic = some p.name) ∨ Q p (p.get c'.st pm)

namespace Tracks
variable {L K : Type} {Q : (p : Property) → p.Val → Prop} {c c₁ c₂ : Ctx L K}

theorem of_st (hst : c₁.st = c.st) (hout : ∀ m ∈ c.out, m ∈ c₁.out) : Tracks Q c c₁ where
  grows := hout
  told p pm := .inl (by rw [hst])

theorem of_eq (hst : c₁.st = c.st) (hout : c₁.out = c.out) : Tracks Q c c₁ :=
  of_st hst fun _ hm => hout ▸ hm

theorem refl (c : Ctx L K) : Tracks Q c c := of_eq rfl rfl

theorem withLoc (l : L) (c : Ctx L K) : Tracks Q c { c with loc := l } := of_eq rfl rfl

theorem trans (h₁ : Tracks Q c c₁) (h₂ : Tracks Q c₁ c₂) : Tracks Q c c₂ where
  grows m hm := h₂.grows m (h₁.grows m hm)
  told p pm := by
    rcases h₂.told p pm with heq | htold | hq
    · -- what the second part left alone, the first part tells of
      rw [heq]
      rcases h₁.told p pm with heq' | ⟨m, hm, htopic⟩ | hq
      · exact .inl heq'
      · exact .inr (.inl ⟨m, h₂.grows m hm, htopic⟩)
      · exact .inr (.inr hq)
    · exact .inr (.inl htold)
    · exact .inr (.inr hq)

theorem ite {b : Prop} [Decidable b] (h₁ : Tracks Q c c₁) (h₂ : Tracks Q c c₂) :
    Tracks Q c (if b then c₁ else c₂) := by
  split
  · exact h₁
  · exact h₂

theorem publish (m : Msg) (h : Tracks Q c c₁) : Tracks Q c (c₁.publish m) :=
  h.trans (of_st rfl fun _ => List.mem_append_left _)

/-- What is written is exempt. -/
theorem exempt {c' : Ctx L K} (hout : c'.out = c.out)
    (hst : ∀ p pm, p.get c'.st pm = p.get c.st pm ∨ Q p (p.get c'.st pm)) : Tracks Q c c' where
  grows _ hm := hout ▸ hm
  told p pm := (hst p pm).imp_right .inr

/-- A property is written, and its update published. -/
theorem write {c' : Ctx L K} {m : Msg} (p : Property) (hm : m.topic = some p.name)
    (hst : ∀ q ≠ p, ∀ pm, q.get c'.st pm = q.get c.st pm) (hout : c'.out = c.out ++ [m]) :
    Tracks Q c c' where
  grows _ hm := hout ▸ List.mem_append_left _ hm
  told q pm := by
    by_cases hq : q = p
    · refine .inr (.inl ⟨m, ?_, hq ▸ hm⟩)
      rw [hout]
      exact List.mem_append_right _ (List.mem_singleton_self m)
    · exact .inl (hst q hq pm)

end Tracks
end Clight
