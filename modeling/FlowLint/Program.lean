import FlowLint.Program.Reader
import FlowLint.Scan

/-!
# The program

Units and scans with the reader that the program runs with. All of them are cases of what is defined
for every reader, and so is what holds of them.
-/

namespace FlowLint

namespace Script

/-- The tree of a script. -/
def parseScript (text : String) : Except BuildError Node :=
  parseScriptWith reader text.toList

/-- The tree of a unit. -/
def build (wrapper text : String) : Except BuildError ParsedUnit :=
  buildWith reader wrapper text.toList

end Script

open Script

/-- The findings in a source. -/
def detect (profile : HostProfile) (source level : Json) : Except DetectError Detection :=
  Detector.detect { reader, profile } source level

/-- The findings in several sources, by their names. -/
def detectUnits (profile : HostProfile) (sources : List (String × Json)) (level : Json) :
    Except DetectError (List (String × List Issue)) :=
  Detector.detectUnits { reader, profile } sources level

/-- The record of a single source, with the notes of its detection. -/
def unitRecordOf (profile : HostProfile) (weights : Weights Number) (source level : Json)
    (unitId unitName : String) : Except ScanError (UnitRecord Number × List LogEntry) :=
  Detector.recordOf { reader, profile } weights source level unitId unitName

/-- A whole scan: its result, and what others saw of it. -/
def scan (setup : ScanSetup) (level : Json) (p : UnitProvider) :
    Except ScanError ScanResult × ScanTrace :=
  Scanner.scan { setup with reader } level p

end FlowLint
