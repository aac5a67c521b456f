import StorageDriver.Config
import StorageDriver.Volumes
import StorageDriver.World

namespace StorageDriver

namespace Config

variable {R : Type}

/-- The configured centers registered in order. `insecure` holds for all of them. -/
def network (c : Config) (insecure : Bool) (planes : R) : Network R :=
  (c.centers.map fun e => { e with insecure := e.insecure || insecure }).foldl
    Network.register { planes := planes }

def world (c : Config) (insecure : Bool) (planes : R) : World R where
  net := c.network insecure planes

def setting (c : Config) (source : Option (String → Except Error String)) : Setting where
  pool := max c.global.poolSize 1
  source := source

def volumes? (c : Config) : Option Volumes := c.entries.head?.map fun e => { host := e.host }

end Config

end StorageDriver
