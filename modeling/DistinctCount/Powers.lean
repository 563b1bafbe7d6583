/-! Powers of naturals are built with one instance in every module, also in those that know
the naturals as a semiring. -/

attribute [instance (high), default_instance (high + 1)] instPowNat
