/-!
# Limits shared by the subsystems
-/

namespace KeyCollective

def defaultCircuitBreakerThreshold : Nat := 3

def defaultRpmLimit : Nat := 60

def defaultRpdLimit : Nat := 1500

def defaultWindowSizeSeconds : Int := 60

def defaultCircuitBreakerCooldownSeconds : Int := 60

def defaultCircuitBreakerHalfOpenSuccessThreshold : Nat := 1

def defaultCircuitBreakerTrippingStatusCodes : List Nat := [429, 500, 502, 503, 504]

def defaultRetryAfterSeconds : Nat := 60

def oneDaySeconds : Int := 86400

end KeyCollective
