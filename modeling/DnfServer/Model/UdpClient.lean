import DnfServer.Model.UdpSession

/-!
# The sending side of a client

`DungeonUdpService` of the client as far as it numbers the inputs it sends. A counter starts
at zero with every connection and an attack is sent three times under one number.
-/

namespace DnfServer

structure DungeonUdpService where
  dungeonId : DungeonId
  movementSequence : UInt32 := 0
  attackSequence : UInt32 := 0

namespace DungeonUdpService

/-- The counter after one more input, which is also the number of the input. -/
def nextSequence (sequence : UInt32) : UInt32 :=
  let sequence := sequence + 1
  if sequence = 0 then 1 else sequence

def sendMovement (moveX moveY : Single) (jump : Bool) (service : DungeonUdpService) :
    PlayerMovementMessage × DungeonUdpService :=
  let sequence := nextSequence service.movementSequence
  ({ dungeonId := service.dungeonId, sequence, moveX, moveY, jump },
    { service with movementSequence := sequence })

def sendAttack (skillId : SkillId) (directionX directionY : Single) (service : DungeonUdpService) :
    PlayerAttackMessage × DungeonUdpService :=
  let sequence := nextSequence service.attackSequence
  ({ dungeonId := service.dungeonId, sequence, skillId, directionX, directionY },
    { service with attackSequence := sequence })

end DungeonUdpService

end DnfServer
