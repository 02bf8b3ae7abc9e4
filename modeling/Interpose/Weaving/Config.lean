import Interpose.Setting.Environment
import Interpose.Toml.Record

namespace Interpose

-- How types are woven.
structure WeavingConfig where
  -- Without this no advice applies anywhere.
  enabled : Bool
  -- An advice that applies nowhere is an error.
  failOnDummy : Bool
  -- Calls through proxies are logged in detail.
  traceDispatch : Bool
  deriving DecidableEq, Repr

def WeavingConfig.default : WeavingConfig where
  enabled := true
  failOnDummy := false
  traceDispatch := false
namespace WeavingConfig

def ofEnvironment (e : Environment) : WeavingConfig where
  enabled := e.switchOr "weft.aop.enabled" default.enabled
  failOnDummy := e.switchOr "weft.aop.fail-on-dummy-advice" default.failOnDummy
  traceDispatch := e.switchOr "weft.aop.trace-dispatch" default.traceDispatch

def ofRecord? (v : Toml.Value) : Option WeavingConfig := do
  return {
    enabled := ← v.fieldOr "enabled" 0 Toml.Value.boolean? default.enabled
    failOnDummy := ← v.fieldOr "fail-on-dummy-advice" 1 Toml.Value.boolean? default.failOnDummy
    traceDispatch := ← v.fieldOr "trace-dispatch" 2 Toml.Value.boolean? default.traceDispatch }

def ofDocument? (document : Toml.Value) : Option WeavingConfig :=
  document.fieldOr "weft" 0 (fun v => v.fieldOr "aop" 0 ofRecord? default) default

end WeavingConfig
end Interpose
