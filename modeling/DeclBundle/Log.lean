
namespace DeclBundle

inductive Level where
  | error
  | warn
  | info
  | debug
  | trace
deriving DecidableEq, Repr

namespace Level

def label : Level → String
  | error => "ERROR"
  | warn => "WARN"
  | info => "INFO"
  | debug => "DEBUG"
  | trace => "TRACE"

def detail : Level → Nat
  | error => 1
  | warn => 2
  | info => 3
  | debug => 4
  | trace => 5

end Level

inductive Area where
  | program
  | config
  | driver
  | emit
  | filter
  | options
  | plugin
  | registry
  | session
  | sink
  | compiler
deriving DecidableEq, Repr

def Area.target : Area → String
  | program => "dtsemit"
  | config => "dtsemit::config"
  | driver => "dtsemit::driver"
  | emit => "dtsemit::emit"
  | filter => "dtsemit::filter"
  | options => "dtsemit::project"
  | plugin => "dtsemit::plugin"
  | registry => "dtsemit::module_registry"
  | session => "dtsemit::session"
  | sink => "dtsemit::sink"
  | compiler => "dtsemit::engine::tsc"

structure Record where
  level : Level
  area : Area
  text : String
deriving DecidableEq, Repr

end DeclBundle
