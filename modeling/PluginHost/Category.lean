/-
This file lists the categories of plugins in the order in which the host builds them.
-/

namespace PluginHost

inductive Category where
  | provider
  | initializer
  | authMechanism
  | authorizer
  | tokenManager
  | authenticator
  | interceptor
  | service
deriving DecidableEq, Repr, Inhabited

namespace Category

def bootOrder : List Category :=
  [.provider, .initializer, .authMechanism, .authorizer, .tokenManager, .authenticator,
    .interceptor, .service]

def label : Category → String
  | .provider => "provider"
  | .initializer => "initializer"
  | .authMechanism => "auth mechanism"
  | .authorizer => "authorizer"
  | .tokenManager => "token manager"
  | .authenticator => "authenticator"
  | .interceptor => "interceptor"
  | .service => "service"

def debug : Category → String
  | .provider => "Provider"
  | .initializer => "Initializer"
  | .authMechanism => "AuthMechanism"
  | .authorizer => "Authorizer"
  | .tokenManager => "TokenManager"
  | .authenticator => "Authenticator"
  | .interceptor => "Interceptor"
  | .service => "Service"

def rank : Category → Nat
  | .provider => 0
  | .initializer => 1
  | .authMechanism => 2
  | .authorizer => 3
  | .tokenManager => 4
  | .authenticator => 5
  | .interceptor => 6
  | .service => 7

def sort (categories : List Category) : List Category :=
  categories.mergeSort fun first second => first.rank ≤ second.rank

end Category

end PluginHost
