import Ftp.Request

/-!
# Simulated failures

The failures of the platform in memory differ in their kind only.
-/

namespace Ftp.Simulation

/-- Every failure is told by the same text. -/
def failure (kind : IoErrorKind) : IoError :=
  ⟨kind, "mock"⟩

end Ftp.Simulation
