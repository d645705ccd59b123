import Geocoding.Database.Session
import Geocoding.Geocoder
import Geocoding.Service
import Geocoding.TemplateFile

/-!
# Connecting

A geocoder from settings: first everything is checked and the templates are read, then the sessions of
the pool are opened. Nothing is connected to where a check fails.
-/

namespace Geocoding

/-- What is around a geocoder: files, the address-parsing service and the database server. -/
structure Surroundings (π σ C : Type) where
  files : Files
  service : Service π
  server : Database.Server σ C

/-- Settings that have been checked, with what they refer to. -/
structure Plan where
  options : Options
  service : Url
  template : Template
  session : Database.SessionOptions
  poolSize : Nat

/-- Checks settings and reads the templates that they name. -/
def Settings.plan (s : Settings) (files : Files) : Except SettingsError Plan := do
  let options ← s.validate
  let service ← s.service
  let template ← match s.templates with
    | some path => TemplateFile.load files path s.country
    | none => .ok .standard
  return { options, service, template, poolSize := s.database.poolSize
           session := ⟨s.database.url, .ofSeconds s.database.statementTimeout⟩ }

/-- Why there is no geocoder. -/
inductive ConnectError where
  | settings (e : SettingsError)
  | database (e : Database.Error)

namespace Surroundings

variable {π σ C : Type}

/-- The geocoder over a pool. -/
def geocoder (w : Surroundings π σ C) (p : Plan) : Geocoder π (Traffic C × σ) where
  options := p.options
  template := p.template
  splitter := w.service.splitter p.service
  store := (w.server.backend p.session).store

/-- Opens the pool of a plan. -/
def openPool (w : Surroundings π σ C) (p : Plan) (outside : σ) : Attempt σ (Pool C) :=
  w.server.openPool p.session p.poolSize outside

/-- Connects with settings. There is no deadline yet, and what never answers is waited for for good. -/
def connect? (w : Surroundings π σ C) (s : Settings) (now : Instant) (outside : σ) :
    Option (Except ConnectError (Plan × Pool C) × Instant × σ) :=
  match s.plan w.files with
  | .error e => some (.error (.settings e), now, outside)
  | .ok p => do
    let (opened, now, outside) ← (w.openPool p outside).wait? now
    match opened with
    | .ok pool => return (.ok (p, pool), now, outside)
    | .error e => return (.error (.database e), now, outside)

end Surroundings

end Geocoding
