import PlcMonitor.Time.Instant

/-! Time zones: how far local clocks are ahead of universal time, and when they are turned. -/
namespace PlcMonitor

/-- A Sunday on which clocks are turned, at a second of that day's standard time. -/
structure Turn where
  month : Nat
  /-- Counted from 1; 0 is the last. -/
  sunday : Nat
  second : Int

structure Summer where
  saving : Int
  start : Turn
  finish : Turn

structure Zone where
  standard : Int
  summer : Option Summer := none

namespace Zone

def utc : Zone := ⟨0, none⟩

def hm (hours minutes : Int) : Int := 3600 * hours + 60 * minutes

def europe (standard : Int) : Zone :=
  ⟨standard, some ⟨3600, ⟨3, 0, hm 1 0 + standard⟩, ⟨10, 0, hm 1 0 + standard⟩⟩⟩

def northAmerica (standard : Int) : Zone :=
  ⟨standard, some ⟨3600, ⟨3, 2, hm 2 0⟩, ⟨11, 1, hm 1 0⟩⟩⟩

/-- The known zones, with the rules in force in 2026. -/
def known : List (String × Zone) :=
  [("UTC", utc), ("GMT", utc), ("Zulu", utc),
   ("Etc/GMT+5", ⟨hm (-5) 0, none⟩),
   ("Etc/GMT-5", ⟨hm 5 0, none⟩),
   ("Asia/Kolkata", ⟨hm 5 30, none⟩),
   ("Asia/Kathmandu", ⟨hm 5 45, none⟩),
   ("Asia/Tokyo", ⟨hm 9 0, none⟩),
   ("Europe/Berlin", europe (hm 1 0)),
   ("Europe/London", europe 0),
   ("America/New_York", northAmerica (hm (-5) 0)),
   ("America/Los_Angeles", northAmerica (hm (-8) 0)),
   ("America/St_Johns", northAmerica (hm (-3) (-30))),
   ("America/Sao_Paulo", ⟨hm (-3) 0, none⟩),
   ("Australia/Sydney", ⟨hm 10 0, some ⟨3600, ⟨10, 1, hm 2 0⟩, ⟨4, 1, hm 2 0⟩⟩⟩),
   ("Australia/Lord_Howe", ⟨hm 10 30, some ⟨1800, ⟨10, 1, hm 2 0⟩, ⟨4, 1, hm 1 30⟩⟩⟩),
   ("Pacific/Kiritimati", ⟨hm 14 0, none⟩),
   ("Pacific/Chatham", ⟨hm 12 45, some ⟨3600, ⟨9, 0, hm 2 45⟩, ⟨4, 1, hm 2 45⟩⟩⟩)]

def Turn.moment (turn : Turn) (year : Int) : Int :=
  Calendar.sunday year turn.month turn.sunday * 86400 + turn.second

/-- Seconds ahead of universal time at an instant. Where summer spans the turn of the year, it is
what winter leaves over. -/
def offset (zone : Zone) (instant : Instant) : Int :=
  match zone.summer with
  | none => zone.standard
  | some summer =>
    let now := instant.second + zone.standard
    let year := (Calendar.dateOf (now / 86400)).year
    let start := Turn.moment summer.start year
    let finish := Turn.moment summer.finish year
    let inSummer :=
      if start < finish then start ≤ now && now < finish else start ≤ now || now < finish
    if inSummer then zone.standard + summer.saving else zone.standard

def localTime (zone : Zone) (instant : Instant) : TimeOfDay :=
  instant.timeOfDay (zone.offset instant)

def clocks : Clocks := fun name => (known.lookup name).map localTime

end Zone
end PlcMonitor
